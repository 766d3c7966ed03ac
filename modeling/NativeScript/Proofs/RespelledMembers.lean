import NativeScript.Proofs.RawName
import NativeScript.Proofs.SelfReference

/-!
# Members whose names are spelled anew

What a function or a field gives to a class is the same under another spelling of its names
exactly if the names that come out of it are spelled as before.  For the members of a package
this holds one by one, since new spellings take methods from a class or add some to it, but never
do both.
-/

namespace NativeScript.Kind

/-- Two owners give the same kind exactly if they are one, unless there is no `Self` in it. -/
theorem replaceSelf_eq_replaceSelf_iff {kind : Kind} {owner other : String} :
    kind.replaceSelf other = kind.replaceSelf owner ↔
      (kind.Mentions selfName → other = owner) := by
  induction kind with
  | named name =>
      by_cases isSelf : name = selfName <;> simp [replaceSelf, Mentions, isSelf]
  | pointer pointee ih => simpa [replaceSelf, Mentions] using ih
  | array element ih => simpa [replaceSelf, Mentions] using ih
  | map key value ihKey ihValue => simp [replaceSelf, Mentions, ihKey, ihValue, or_imp]
  | qualified space member ih => simpa [replaceSelf, Mentions] using ih

end NativeScript.Kind

namespace NativeScript.Scan

open Entry (Method Property)
open Source (Field Function IsRaw OwnedFunction Struct TypeExpr)

/-! ## Lists side by side -/

section Lists

variable {α β γ : Type} {related : α → β → Prop} {items : List α} {others : List β}
  {read : α → Option γ} {readOther : β → Option γ}

theorem exists_of_mem_of_forall₂ (pairs : List.Forall₂ related items others) {other : β}
    (member : other ∈ others) : ∃ item ∈ items, related item other := by
  induction pairs with
  | nil => cases member
  | cons isRelated _ ih =>
      rcases List.mem_cons.mp member with rfl | later
      · exact ⟨_, List.mem_cons_self, isRelated⟩
      · obtain ⟨item, isItem, relatedToo⟩ := ih later
        exact ⟨item, List.mem_cons_of_mem _ isItem, relatedToo⟩

theorem forall₂_eraseIdx (pairs : List.Forall₂ related items others) (index : Nat) :
    List.Forall₂ related (items.eraseIdx index) (others.eraseIdx index) := by
  induction pairs generalizing index with
  | nil => exact .nil
  | cons isRelated pairs ih =>
      cases index with
      | zero => exact pairs
      | succ index => exact .cons isRelated (ih index)

theorem forall₂_congr_of_forall₂ {first second : α → β → Prop}
    (pairs : List.Forall₂ related items others)
    (same : ∀ item other, related item other → (first item other ↔ second item other)) :
    List.Forall₂ first items others ↔ List.Forall₂ second items others :=
  ⟨List.Forall₂.mp (fun item other isRelated => (same item other isRelated).mp) pairs,
    List.Forall₂.mp (fun item other isRelated => (same item other isRelated).mpr) pairs⟩

theorem forall₂_and_iff {first second : α → β → Prop} :
    List.Forall₂ (fun item other => first item other ∧ second item other) items others ↔
      List.Forall₂ first items others ∧ List.Forall₂ second items others := by
  constructor
  · intro both
    exact ⟨both.imp fun _ _ => And.left, both.imp fun _ _ => And.right⟩
  · rintro ⟨firsts, seconds⟩
    exact List.Forall₂.mp (fun _ _ => And.intro) firsts seconds

theorem map_eq_map_iff_forall₂ {change : α → γ} {changeOther : β → γ} :
    items.map change = others.map changeOther ↔
      List.Forall₂ (fun item other => change item = changeOther other) items others := by
  rw [← List.forall₂_eq_eq_eq, List.forall₂_map_left_iff, List.forall₂_map_right_iff]

theorem length_filterMap_le_of_forall₂ (pairs : List.Forall₂ related items others)
    (fewer : ∀ item other, related item other →
      (readOther other).isSome = true → (read item).isSome = true) :
    (others.filterMap readOther).length ≤ (items.filterMap read).length := by
  induction pairs with
  | nil => exact Nat.le_refl 0
  | @cons item other _ _ isRelated _ ih =>
      have here := fewer item other isRelated
      cases isItem : read item with
      | none =>
          have isNone : readOther other = none := by
            simpa [isItem] using here
          simpa [isItem, isNone] using ih
      | some value =>
          cases isOther : readOther other with
          | none => simpa [isItem, isOther] using Nat.le_succ_of_le ih
          | some otherValue => simpa [isItem, isOther] using ih

/-- If nothing is read on one side alone, the same is read of both lists exactly if it is so
item by item. -/
theorem filterMap_eq_filterMap_iff (pairs : List.Forall₂ related items others)
    (fewer : ∀ item other, related item other →
      (readOther other).isSome = true → (read item).isSome = true) :
    others.filterMap readOther = items.filterMap read ↔
      List.Forall₂ (fun item other => readOther other = read item) items others := by
  induction pairs with
  | nil => simp
  | @cons item other items others isRelated pairs ih =>
      have here := fewer item other isRelated
      have shorter := length_filterMap_le_of_forall₂ pairs fewer
      rw [List.forall₂_cons, ← ih]
      cases isItem : read item with
      | none =>
          have isNone : readOther other = none := by
            simpa [isItem] using here
          simp [isItem, isNone]
      | some value =>
          cases isOther : readOther other with
          | some otherValue => simp [isItem, isOther]
          | none =>
              -- One value too few is read of the other list.
              have unequal : others.filterMap readOther ≠ value :: items.filterMap read := by
                intro same
                rw [same, List.length_cons] at shorter
                omega
              simp [isItem, isOther, unequal]

end Lists

/-! ## One function -/

section Functions

variable {config : Config} {className : String} {function other : OwnedFunction}

/-- The method of a class that a function is, if it is one. -/
def asMethod? (config : Config) (className : String) (function : OwnedFunction) : Option Method :=
  (method? config className function).map Prod.fst

theorem methodsOf_eq_filterMap (config : Config) (className : String)
    (functions : List OwnedFunction) :
    methodsOf config className functions = functions.filterMap (asMethod? config className) := by
  rw [← map_fst_filterMap_method?, List.map_filterMap]
  rfl

theorem asMethod?_isSome_iff :
    (asMethod? config className function).isSome = true ↔
      function.owner = some className ∧ IsExposed config function.decl := by
  rw [asMethod?, Option.isSome_map, method?_isSome_iff]

theorem asMethod?_eq_some (isOwner : function.owner = some className)
    (exposed : IsExposed config function.decl) :
    asMethod? config className function =
      some (asMethod className (exportAlias? config function.decl.attributes) function.decl) := by
  obtain ⟨hasReceiver, admitted⟩ := isExposed_iff.mp exposed
  rw [asMethod?, method?, isMethodOf, isOwner, hasReceiver, admitted]
  simp

theorem asMethod?_eq_none (other : ¬ (function.owner = some className ∧
    IsExposed config function.decl)) : asMethod? config className function = none :=
  Option.not_isSome_iff_eq_none.mp (mt asMethod?_isSome_iff.mp other)

/-- The name of a function has no part in its parameters and results. -/
theorem asMethod_rename (className : String) (exposedAs : Option String) (decl : Function)
    (name : String) :
    asMethod className exposedAs (decl.rename name) =
      { asMethod className exposedAs decl with name } := by
  have sameParameters : (readInputs className (decl.rename name)).filterMap value? =
      (readInputs className decl).filterMap value? := by
    simp only [readInputs, List.filterMap_filterMap]
    apply congrArg (List.filterMap · decl.inputs)
    funext input
    cases input with
    | receiver inner => rfl
    | typed binding inner type =>
        cases binding with
        | none => rfl
        | some bound =>
            simp only [readInput?, readParameter]
            cases type.kind? <;> rfl
  simp only [asMethod, sameParameters]
  rfl

theorem isExposed_respelled_iff (respelled : function.Respelled other) :
    IsExposed config other.decl ↔ IsExposed config function.decl := by
  obtain ⟨_, _, _, _, rfl⟩ := respelled
  exact ⟨fun exposed => ⟨exposed.receiver, exposed.admitted⟩,
    fun exposed => ⟨exposed.receiver, exposed.admitted⟩⟩

/-- A function with other names is the same method of a class exactly if it is one of the class
as before, and of the same name. -/
theorem asMethod?_eq_iff (respelled : function.Respelled other) :
    asMethod? config className other = asMethod? config className function ↔
      (IsExposed config function.decl →
        (other.owner = some className ↔ function.owner = some className)) ∧
      (function.owner = some className → IsExposed config function.decl →
        other.decl.name = function.decl.name) := by
  have sameExposure := @isExposed_respelled_iff config _ _ respelled
  obtain ⟨owner, name, _, _, rfl⟩ := respelled
  by_cases exposed : IsExposed config function.decl
  · have exposedToo := sameExposure.mpr exposed
    by_cases isOwner : function.owner = some className
    · rw [asMethod?_eq_some isOwner exposed]
      by_cases isOwnerToo : owner = some className
      · rw [asMethod?_eq_some isOwnerToo exposedToo, asMethod_rename]
        simp [isOwner, isOwnerToo, exposed, asMethod, Function.rename]
      · rw [asMethod?_eq_none fun both => isOwnerToo both.1]
        simp [isOwner, isOwnerToo, exposed]
    · have isNone : asMethod? config className function = none :=
        asMethod?_eq_none fun both => isOwner both.1
      rw [isNone]
      by_cases isOwnerToo : owner = some className
      · rw [asMethod?_eq_some isOwnerToo exposedToo]
        simp [isOwner, isOwnerToo, exposed]
      · rw [asMethod?_eq_none fun both => isOwnerToo both.1]
        simp [isOwner, isOwnerToo]
  · have hidden := mt sameExposure.mp exposed
    have isNone : asMethod? config className function = none :=
      asMethod?_eq_none fun both => exposed both.2
    rw [isNone, asMethod?_eq_none fun both => hidden both.2]
    simp [exposed]

/-! ### Constructors and destructors -/

theorem resultKind_eq_iff {owner changed : Option String}
    (sameOwner : Option.Rel Source.Respelled owner changed) (type : TypeExpr) :
    resultKind changed type = resultKind owner type ↔
      ((type.kindOr .variant).Mentions Kind.selfName → changed = owner) := by
  cases sameOwner with
  | none => simp
  | some =>
      rw [Option.some_inj]
      exact Kind.replaceSelf_eq_replaceSelf_iff

theorem constructorOf_eq_iff (respelled : function.Respelled other)
    (shape : HasShape className function .constructor) :
    constructorOf className other = constructorOf className function ↔
      other.decl.name = function.decl.name ∧
      ∀ type ∈ function.decl.results, (type.kindOr .variant).Mentions Kind.selfName →
        other.owner = function.owner := by
  obtain ⟨owner, name, sameOwner, _, rfl⟩ := respelled
  obtain ⟨_, type, results, _⟩ := shape
  have resultsToo : (function.decl.rename name).results = [type] := results
  simp only [constructorOf, results, resultsToo, List.head?_cons, Option.map_some,
    Option.getD_some, Entry.Constructor.mk.injEq, true_and, resultKind_eq_iff sameOwner,
    List.forall_mem_singleton]

/-- The names in a function have no part in its shape, but for a `Self` in the result of a
constructor. -/
theorem HasShape.respelled {lifecycle : Lifecycle} (shape : HasShape className function lifecycle)
    (respelled : function.Respelled other)
    (result : lifecycle = .constructor → ∀ type ∈ function.decl.results,
      (type.kindOr .variant).Mentions Kind.selfName → other.owner = function.owner) :
    HasShape className other lifecycle := by
  obtain ⟨owner, name, sameOwner, _, rfl⟩ := respelled
  cases lifecycle with
  | destructor => exact shape
  | constructor =>
      obtain ⟨noInputs, type, results, isPointer⟩ := shape
      have isSame := result rfl type (by rw [results]; exact List.mem_cons_self)
      refine ⟨noInputs, type, results, ?_⟩
      rwa [(resultKind_eq_iff sameOwner type).mpr isSame]

theorem owner_eq_of_not_isRaw (respelled : function.Respelled other)
    (isPlain : ¬ IsRaw className) (isOwner : other.owner = some className) :
    function.owner = some className := by
  obtain ⟨owner, name, sameOwner, _, rfl⟩ := respelled
  obtain rfl : owner = some className := isOwner
  generalize function.owner = written at sameOwner
  cases sameOwner with
  | some here => rw [here.eq_of_not_isRaw isPlain]

theorem owner_eq_of_isRaw (respelled : function.Respelled other) (isRaw : IsRaw className)
    (isOwner : function.owner = some className) : other.owner = some className := by
  obtain ⟨owner, name, sameOwner, _, rfl⟩ := respelled
  rw [isOwner] at sameOwner
  cases sameOwner with
  | some here => exact congrArg some (here.eq_of_isRaw isRaw)

theorem attributes_of_respelled (respelled : function.Respelled other) :
    other.decl.attributes = function.decl.attributes := by
  obtain ⟨_, _, _, _, rfl⟩ := respelled
  rfl

end Functions

/-! ## All functions -/

section Functions

variable {config : Config} {className : String} {functions others : List OwnedFunction}

theorem named_respelled (respelled : List.Forall₂ OwnedFunction.Respelled functions others)
    (lifecycle : Lifecycle) :
    List.Forall₂ OwnedFunction.Respelled (named config lifecycle className functions)
      (named config lifecycle className others) := by
  refine List.rel_filter ?_ respelled
  rintro function _ ⟨_, _, _, _, rfl⟩
  exact Iff.rfl

/-- Names have no part in how many functions are named for a class. -/
theorem atMostOne_map_named_respelled {β : Type} {lifecycle : Lifecycle}
    (entryOf : OwnedFunction → β)
    (respelled : List.Forall₂ OwnedFunction.Respelled functions others)
    (single : AtMostOne ((named config lifecycle className functions).map entryOf)) :
    AtMostOne ((named config lifecycle className others).map entryOf) := by
  rw [AtMostOne, List.length_map] at single ⊢
  rwa [← (named_respelled respelled lifecycle).length_eq]

/-- Functions with other names are the same methods of a class exactly if each of them is. -/
theorem methodsOf_eq_iff (respelled : List.Forall₂ OwnedFunction.Respelled functions others) :
    methodsOf config className others = methodsOf config className functions ↔
      List.Forall₂ (fun function other =>
        asMethod? config className other = asMethod? config className function)
        functions others := by
  rw [methodsOf_eq_filterMap, methodsOf_eq_filterMap]
  -- A class with a plain name can only lose methods, one with a raw name can only gain some.
  by_cases isRaw : IsRaw className
  · have flipped : List.Forall₂ (flip OwnedFunction.Respelled) others functions :=
      List.Forall₂.flip respelled
    rw [eq_comm, filterMap_eq_filterMap_iff flipped]
    · constructor
      · exact fun same => List.Forall₂.flip (same.imp fun _ _ => Eq.symm)
      · exact fun same => List.Forall₂.flip (same.imp fun _ _ => Eq.symm)
    · intro other function here isMethod
      obtain ⟨isOwner, exposed⟩ := asMethod?_isSome_iff.mp isMethod
      exact asMethod?_isSome_iff.mpr
        ⟨owner_eq_of_isRaw here isRaw isOwner, (isExposed_respelled_iff here).mpr exposed⟩
  · refine filterMap_eq_filterMap_iff respelled fun function other here isMethod => ?_
    obtain ⟨isOwner, exposed⟩ := asMethod?_isSome_iff.mp isMethod
    exact asMethod?_isSome_iff.mpr
      ⟨owner_eq_of_not_isRaw here isRaw isOwner, (isExposed_respelled_iff here).mp exposed⟩

theorem map_named_eq_filterMap {β : Type} (lifecycle : Lifecycle) (entryOf : OwnedFunction → β) :
    (named config lifecycle className functions).map entryOf = functions.filterMap fun function =>
      if NamesClass config lifecycle className function.decl.attributes then
        some (entryOf function)
      else
        none := by
  rw [named, ← List.filterMap_eq_map, List.filterMap_filter]
  simp only [decide_eq_true_eq, Function.comp_apply]

theorem AtMostOne.head?_eq_head?_iff {α : Type} {first second : List α} (single : AtMostOne first)
    (singleToo : AtMostOne second) : second.head? = first.head? ↔ second = first := by
  match first, second with
  | [], [] | [], [_] | [_], [] | [_], [_] => simp
  | _ :: _ :: _, _ => simp [AtMostOne] at single
  | _, _ :: _ :: _ => simp [AtMostOne] at singleToo

/-- Of functions with other names, of which one at most is named for a class, the same comes
first exactly if the same comes of each. -/
theorem head?_map_named_eq_iff {β : Type} {lifecycle : Lifecycle} (entryOf : OwnedFunction → β)
    (respelled : List.Forall₂ OwnedFunction.Respelled functions others)
    (single : AtMostOne ((named config lifecycle className functions).map entryOf)) :
    ((named config lifecycle className others).map entryOf).head? =
        ((named config lifecycle className functions).map entryOf).head? ↔
      List.Forall₂ (fun function other =>
        NamesClass config lifecycle className function.decl.attributes →
          entryOf other = entryOf function) functions others := by
  have singleToo := atMostOne_map_named_respelled entryOf respelled single
  rw [single.head?_eq_head?_iff singleToo, map_named_eq_filterMap, map_named_eq_filterMap,
    filterMap_eq_filterMap_iff respelled]
  · apply forall₂_congr_of_forall₂ respelled
    intro function other here
    rw [attributes_of_respelled here]
    by_cases names : NamesClass config lifecycle className function.decl.attributes <;>
      simp [names]
  · intro function other here
    rw [attributes_of_respelled here]
    by_cases names : NamesClass config lifecycle className function.decl.attributes <;>
      simp [names]

end Functions

/-! ## Fields -/

section Fields

variable {config : Config} {className : String} {field changed : Field} {decl other : Struct}

/-- The name of a field has no part in whether it can be read. -/
theorem FieldSound.rename (sound : FieldSound config field) (name : String) :
    FieldSound config (field.rename name) :=
  ⟨sound.tags, sound.exported, sound.values⟩

/-- A field of another name declares the same property, of that name. -/
theorem property?_rename (config : Config) (className : String) (field : Field) (name : String) :
    property? config className (field.rename name) =
      (property? config className field).map fun property => { property with name } := by
  rw [property?, property?, apply_ite (Option.map _), Option.map_none, Option.map_bind]
  change (if (tagsOf config field).ignored then none else field.type.kind?.bind _) = _
  apply congrArg (ite _ none <| field.type.kind?.bind ·)
  funext kind
  rw [Function.comp_apply, apply_ite (Option.map _)]
  rfl

theorem name_of_property?_eq_some {property : Property}
    (isProperty : property? config className field = some property) :
    property.name = field.name := by
  have own := property?_rename config className field field.name
  change property? config className field = _ at own
  rw [isProperty] at own
  exact congrArg Property.name (Option.some.inj own)

/-- A field with another name declares the same property exactly if it declares none or is of
the same name. -/
theorem property?_eq_iff (respelled : field.Respelled changed) :
    property? config className changed = property? config className field ↔
      (IsExposedField config field → changed.name = field.name) := by
  obtain ⟨name, _, rfl⟩ := respelled
  rw [property?_rename, ← @property?_isSome_iff config className field]
  cases isProperty : property? config className field with
  | none => simp
  | some property =>
      have sameName := name_of_property?_eq_some isProperty
      constructor
      · intro same _
        exact (congrArg Property.name (Option.some.inj same)).trans sameName
      · intro same
        have renamed : name = property.name := (same rfl).trans sameName.symm
        rw [Option.map_some, renamed]

/-- The names of a struct and its fields have no part in which of them is the base field. -/
theorem baseIndex?_of_respelled (config : Config) (respelled : decl.Respelled other) :
    baseIndex? config other = baseIndex? config decl := by
  obtain ⟨_, _, _, sameFields, rfl⟩ := respelled
  rw [baseIndex?, sameFields.types]
  rfl

theorem baseName_of_respelled (config : Config) (respelled : decl.Respelled other) :
    baseName config other = baseName config decl := by
  obtain ⟨_, _, _, sameFields, rfl⟩ := respelled
  rw [baseName, sameFields.types]
  rfl

theorem candidateFields_respelled (config : Config) (respelled : decl.Respelled other) :
    List.Forall₂ Field.Respelled (candidateFields config decl) (candidateFields config other) := by
  have sameBase := baseIndex?_of_respelled config respelled
  obtain ⟨_, fields, _, sameFields, rfl⟩ := respelled
  rw [candidateFields, candidateFields, sameBase]
  generalize decl.fields = written at sameFields
  cases sameFields with
  | named each =>
      cases baseIndex? config decl with
      | none => exact each
      | some index => exact forall₂_eraseIdx each index
  | numbered fields => exact .nil
  | none => exact .nil

/-- The fields of a struct with other names declare the same properties exactly if those that
declare any keep their names. -/
theorem propertiesOf_eq_iff (respelled : decl.Respelled other) (sameName : other.name = decl.name) :
    propertiesOf config other = propertiesOf config decl ↔
      List.Forall₂ (fun field changed => IsExposedField config field → changed.name = field.name)
        (candidateFields config decl) (candidateFields config other) := by
  have pairs := candidateFields_respelled config respelled
  rw [propertiesOf, propertiesOf, sameName, filterMap_eq_filterMap_iff pairs]
  · exact forall₂_congr_of_forall₂ pairs fun _ _ => property?_eq_iff
  · rintro field changed ⟨name, _, rfl⟩
    rw [property?_rename, Option.isSome_map]
    exact id

end Fields

end NativeScript.Scan
