import NativeScript.Kind.OfType
import NativeScript.Proofs.Kind.Canonical

/-!
# The kinds of types are canonical

An identifier has no character that means something in the written form of a kind, and a
path of identifiers is a name whose dots all separate.  So the kind of a type is
canonical however the type is nested, and it stays so when `Self` gives way to a class.
-/

namespace NativeScript

/-! ## Identifiers -/

/-- A text that can be an identifier: it is not empty, and none of its characters stands
for anything in a written kind. -/
structure IsIdentifier (name : String) : Prop where
  nonempty : name.toList ≠ []
  undotted : '.' ∉ name.toList
  opened : '[' ∉ name.toList
  closed : ']' ∉ name.toList
  unstarred : '*' ∉ name.toList

theorem isIdentifier_iff {name : String} :
    IsIdentifier name ↔ name.toList ≠ [] ∧ '.' ∉ name.toList ∧ '[' ∉ name.toList ∧
      ']' ∉ name.toList ∧ '*' ∉ name.toList := by
  constructor
  · rintro ⟨nonempty, undotted, opened, closed, unstarred⟩
    exact ⟨nonempty, undotted, opened, closed, unstarred⟩
  · rintro ⟨nonempty, undotted, opened, closed, unstarred⟩
    exact ⟨nonempty, undotted, opened, closed, unstarred⟩

instance (name : String) : Decidable (IsIdentifier name) :=
  decidable_of_iff _ isIdentifier_iff.symm

namespace IsIdentifier

variable {name : String}

theorem canonical_named (identifier : IsIdentifier name) : (Kind.named name).Canonical := by
  refine ⟨⟨identifier.nonempty, identifier.opened, identifier.closed, ?_⟩, ?_⟩
  · intro starred
    exact identifier.unstarred (List.mem_of_mem_head? starred)
  · intro space member dotted
    apply identifier.undotted
    simp [dotted.parts]

theorem isMember (identifier : IsIdentifier name) : Kind.IsMember name.toList :=
  ⟨identifier.nonempty, identifier.undotted, identifier.opened, identifier.closed⟩

end IsIdentifier

namespace Kind

/-! ## Paths of identifiers -/

theorem canonical_foldl_qualified {spaces : List String}
    (identifiers : ∀ space ∈ spaces, IsIdentifier space) {start : Kind}
    (canonical : start.Canonical) (isPath : start.IsPath) :
    (spaces.foldl qualified start).Canonical ∧ (spaces.foldl qualified start).IsPath := by
  induction spaces generalizing start with
  | nil => exact ⟨canonical, isPath⟩
  | cons space spaces ih =>
      rw [List.forall_mem_cons] at identifiers
      exact ih identifiers.2 ⟨canonical, isPath, identifiers.1.isMember⟩ trivial

theorem canonical_ofPath {outer : List String} {last : String}
    (identifiers : ∀ name ∈ outer, IsIdentifier name) (identifier : IsIdentifier last) :
    (ofPath outer last).Canonical := by
  cases outer with
  | nil => exact identifier.canonical_named
  | cons first spaces =>
      rw [List.forall_mem_cons] at identifiers
      have start : (named first).Canonical := identifiers.1.canonical_named
      obtain ⟨canonical, isPath⟩ := canonical_foldl_qualified identifiers.2 start trivial
      exact ⟨canonical, isPath, identifier.isMember⟩

theorem canonical_binding {member : String} (identifier : IsIdentifier member) :
    (binding member).Canonical := by
  have space : IsIdentifier bindingSpace := by decide
  exact ⟨space.canonical_named, trivial, identifier.isMember⟩

theorem canonical_genericPointer : genericPointer.Canonical :=
  canonical_binding (by decide)

theorem canonical_variant : variant.Canonical :=
  canonical_binding (by decide)

/-- A kind that may be missing is canonical together with the one in its place. -/
theorem canonical_getD {kind? : Option Kind} {fallback : Kind}
    (canonical : ∀ kind, kind? = some kind → kind.Canonical) (other : fallback.Canonical) :
    (kind?.getD fallback).Canonical := by
  cases kind? with
  | none => exact other
  | some kind => exact canonical kind rfl

/-! ## Containers -/

theorem canonical_ofContainer? {name : String} {arguments : List Kind}
    (canonical : ∀ argument ∈ arguments, argument.Canonical) {kind : Kind}
    (found : ofContainer? name arguments = some kind) : kind.Canonical := by
  match arguments with
  | [] => cases found
  | [inner] =>
      have inside := canonical inner List.mem_cons_self
      simp only [ofContainer?] at found
      split at found
      · obtain rfl := Option.some.inj found
        exact inside
      · split at found
        · obtain rfl := Option.some.inj found
          exact inside
        · cases found
  | key :: value :: rest =>
      have insideKey := canonical key List.mem_cons_self
      have insideValue := canonical value (List.mem_cons_of_mem key List.mem_cons_self)
      simp only [ofContainer?] at found
      split at found
      · obtain rfl := Option.some.inj found
        exact ⟨insideKey, insideValue⟩
      · cases found

/-! ## The class in place of `Self` -/

theorem isPath_replaceSelf {kind : Kind} (isPath : kind.IsPath) (owner : String) :
    (kind.replaceSelf owner).IsPath := by
  cases kind <;> first | exact trivial | exact isPath.elim

/-- A kind stays canonical when an identifier takes the place of `Self`. -/
theorem Canonical.replaceSelf {kind : Kind} (canonical : kind.Canonical) {owner : String}
    (identifier : IsIdentifier owner) : (kind.replaceSelf owner).Canonical := by
  induction kind with
  | named name =>
      by_cases isSelf : name = selfName
      · rw [Kind.replaceSelf, if_pos isSelf]
        exact identifier.canonical_named
      · rwa [Kind.replaceSelf, if_neg isSelf]
  | pointer pointee ih => exact ih canonical
  | array element ih => exact ih canonical
  | map key value ihKey ihValue => exact ⟨ihKey canonical.1, ihValue canonical.2⟩
  | qualified space member ih =>
      exact ⟨ih canonical.1, isPath_replaceSelf canonical.2.1 owner, canonical.2.2⟩

end Kind

namespace Source

/-! ## The names in a type -/

mutual

/-- The names in a type.  Those in code inside it are left out. -/
def TypeExpr.names : TypeExpr → List String
  | .path _ outer last => namesOfSegments outer ++ last.names
  | .associated _ last => [last]
  | .pointer pointee => pointee.names
  | .paren inner => inner.names
  | .slice element => element.names
  | .array element _ => element.names
  | .tuple elements => namesOfTypes elements
  | .other _ => []

/-- The names in a segment. -/
def Segment.names : Segment → List String
  | .plain name => [name]
  | .generic name arguments => name :: namesOfArguments arguments
  | .callable name _ => [name]

/-- The names in a generic argument. -/
def Argument.names : Argument → List String
  | .type type => type.names
  | .other _ => []

/-- The names in segments, from left to right. -/
def namesOfSegments : List Segment → List String
  | [] => []
  | segment :: segments => segment.names ++ namesOfSegments segments

/-- The names in generic arguments, from left to right. -/
def namesOfArguments : List Argument → List String
  | [] => []
  | argument :: arguments => argument.names ++ namesOfArguments arguments

/-- The names in types, from left to right. -/
def namesOfTypes : List TypeExpr → List String
  | [] => []
  | type :: types => type.names ++ namesOfTypes types

end

/-- Names that are all identifiers. -/
def Identifiers (names : List String) : Prop :=
  ∀ name ∈ names, IsIdentifier name

instance (names : List String) : Decidable (Identifiers names) :=
  inferInstanceAs (Decidable (∀ name ∈ names, _))

theorem identifiers_append_iff {first second : List String} :
    Identifiers (first ++ second) ↔ Identifiers first ∧ Identifiers second :=
  List.forall_mem_append

theorem identifiers_cons_iff {name : String} {names : List String} :
    Identifiers (name :: names) ↔ IsIdentifier name ∧ Identifiers names :=
  List.forall_mem_cons

theorem Segment.name_mem_names (segment : Segment) : segment.name ∈ segment.names := by
  cases segment <;> exact List.mem_cons_self

/-- The names before the last segment of a path. -/
theorem identifiers_map_name {segments : List Segment}
    (identifiers : Identifiers (namesOfSegments segments)) :
    Identifiers (segments.map Segment.name) := by
  induction segments with
  | nil => exact identifiers
  | cons segment segments ih =>
      rw [namesOfSegments, identifiers_append_iff] at identifiers
      rw [List.map_cons, identifiers_cons_iff]
      exact ⟨identifiers.1 _ segment.name_mem_names, ih identifiers.2⟩

/-! ## The kind of a type -/

mutual

/-- The kind of a type with identifiers for names is canonical. -/
theorem TypeExpr.canonical_of_kind? (type : TypeExpr) (identifiers : Identifiers type.names)
    {kind : Kind} (found : type.kind? = some kind) : kind.Canonical := by
  cases type with
  | path absolute outer last =>
      rw [TypeExpr.names, identifiers_append_iff] at identifiers
      rw [TypeExpr.kind?] at found
      split at found
      · exact last.canonical_of_kindWithin? (identifiers_map_name identifiers.1) identifiers.2
          found
      · cases found
  | associated inner last => cases found
  | pointer pointee =>
      obtain rfl := Option.some.inj found
      exact Kind.canonical_getD (fun _ => pointee.canonical_of_kind? identifiers)
        Kind.canonical_genericPointer
  | paren inner => exact inner.canonical_of_kind? identifiers found
  | slice element =>
      obtain rfl := Option.some.inj found
      exact Kind.canonical_getD (fun _ => element.canonical_of_kind? identifiers)
        Kind.canonical_genericPointer
  | array element length =>
      obtain rfl := Option.some.inj found
      exact Kind.canonical_getD (fun _ => element.canonical_of_kind? identifiers)
        Kind.canonical_genericPointer
  | tuple elements => cases found
  | other inner => cases found

theorem Segment.canonical_of_kindWithin? (segment : Segment) {outer : List String}
    (identifiersOuter : Identifiers outer) (identifiers : Identifiers segment.names)
    {kind : Kind} (found : segment.kindWithin? outer = some kind) : kind.Canonical := by
  cases segment with
  | plain name =>
      obtain rfl := Option.some.inj found
      exact Kind.canonical_ofPath identifiersOuter (identifiers name List.mem_cons_self)
  | generic name arguments =>
      rw [Segment.names, identifiers_cons_iff] at identifiers
      exact Kind.canonical_ofContainer? (canonical_kindsOfArguments arguments identifiers.2) found
  | callable name inner => cases found

theorem canonical_kindsOfArguments (arguments : List Argument)
    (identifiers : Identifiers (namesOfArguments arguments)) :
    ∀ kind ∈ kindsOfArguments arguments, kind.Canonical := by
  cases arguments with
  | nil => simp [kindsOfArguments]
  | cons argument arguments =>
      rw [namesOfArguments, identifiers_append_iff] at identifiers
      rw [kindsOfArguments, List.forall_mem_append]
      exact ⟨argument.canonical_kinds identifiers.1,
        canonical_kindsOfArguments arguments identifiers.2⟩

theorem Argument.canonical_kinds (argument : Argument) (identifiers : Identifiers argument.names) :
    ∀ kind ∈ argument.kinds, kind.Canonical := by
  cases argument with
  | type type =>
      rw [Argument.kinds, List.forall_mem_singleton]
      exact Kind.canonical_getD (fun _ => type.canonical_of_kind? identifiers)
        Kind.canonical_genericPointer
  | other inner => simp [Argument.kinds]

end

theorem TypeExpr.canonical_kindOr (type : TypeExpr) (identifiers : Identifiers type.names)
    {fallback : Kind} (canonical : fallback.Canonical) : (type.kindOr fallback).Canonical :=
  Kind.canonical_getD (fun _ => type.canonical_of_kind? identifiers) canonical

end Source

end NativeScript
