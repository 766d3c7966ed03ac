import Mathlib.Data.List.Induction
import NativeScript.Proofs.Address
import NativeScript.Proofs.UnitOrder

/-!
# The signals of scanned classes

A signal literal counts where it fills a named field of a record literal of the class.
The record literals are taken unit by unit, each before those inside it, and of each its
own fields in order.  A field keeps the first signal that has a name; a literal without
one leaves the field free.
-/

namespace NativeScript.Scan

open Entry (Signal)
open Entry.Class (keepFirst)
open Source (Code Path RecordLiteral SourceUnit)

/-! ## Signal literals of a class -/

/-- A record literal of a class: its path ends in the name of the class, or it is just
`Self` and the innermost `impl` block around it is for the class. -/
def IsLiteralOf (className : String) (literal : RecordLiteral) : Prop :=
  literal.path.last = className ∨
    literal.path = .ofName "Self" ∧ literal.owner = some className

theorem isName_iff {path : Path} {name : String} :
    path.isName name = true ↔ path = .ofName name := by
  obtain ⟨absolute, outer, last, plain⟩ := path
  simp only [Path.isName, Path.ofName, Source.Path.mk.injEq, Bool.and_eq_true, Bool.not_eq_true',
    List.isEmpty_iff, beq_iff_eq]
  constructor
  · rintro ⟨⟨⟨notAbsolute, noOuter⟩, isPlain⟩, same⟩
    exact ⟨notAbsolute, noOuter, same, isPlain⟩
  · rintro ⟨notAbsolute, noOuter, same, isPlain⟩
    exact ⟨⟨⟨notAbsolute, noOuter⟩, isPlain⟩, same⟩

theorem isOfClass_iff {className : String} {literal : RecordLiteral} :
    isOfClass className literal = true ↔ IsLiteralOf className literal := by
  simp only [isOfClass, IsLiteralOf, Bool.or_eq_true, Bool.and_eq_true, beq_iff_eq, isName_iff]

/-- A path that names the signal type, alone or inside the binding namespace. -/
def NamesSignal (config : Config) (path : Path) : Prop :=
  path.last = config.signalType ∧
    (path.outer = [] ∨ path.outer.head? = some config.bindingSpace)

theorem isSignalPath_iff {config : Config} {path : Path} :
    isSignalPath config path = true ↔ NamesSignal config path := by
  unfold isSignalPath NamesSignal Path.first
  cases path.outer <;> simp

/-- A field of a record literal that is named and filled directly with a signal literal,
which has a name, declares a signal. -/
def DeclaresSignal (config : Config) (field : Option String × Code) (signal : Signal) : Prop :=
  ∃ path inner parts rest,
    field = (some signal.field, .record path inner parts rest) ∧ NamesSignal config path ∧
    (SignalLiteral.mk signal.field parts).name? = some signal.name ∧
    signal.arguments = (SignalLiteral.mk signal.field parts).listPart "args" ∧
    signal.defaults = (SignalLiteral.mk signal.field parts).listPart "default_args"

theorem signalLiteral?_eq_some_iff {config : Config} {field : Option String × Code}
    {literal : SignalLiteral} :
    signalLiteral? config field = some literal ↔
      ∃ path inner rest, field = (some literal.field, .record path inner literal.parts rest) ∧
        NamesSignal config path := by
  constructor
  · intro isLiteral
    unfold signalLiteral? at isLiteral
    split at isLiteral
    · rename_i name path inner parts rest
      split at isLiteral
      · rename_i namesSignal
        obtain rfl := Option.some.inj isLiteral
        exact ⟨path, inner, rest, rfl, isSignalPath_iff.mp namesSignal⟩
      · cases isLiteral
    · cases isLiteral
  · rintro ⟨path, inner, rest, rfl, namesSignal⟩
    simp [signalLiteral?, isSignalPath_iff.mpr namesSignal]

theorem signal?_eq_some_iff {literal : SignalLiteral} {signal : Signal} :
    literal.signal? = some signal ↔
      literal.field = signal.field ∧ literal.name? = some signal.name ∧
        signal.arguments = literal.listPart "args" ∧
        signal.defaults = literal.listPart "default_args" := by
  rw [SignalLiteral.signal?, Option.map_eq_some_iff]
  constructor
  · rintro ⟨name, isName, rfl⟩
    exact ⟨rfl, isName, rfl, rfl⟩
  · obtain ⟨name, field, arguments, defaults⟩ := signal
    rintro ⟨rfl, isName, rfl, rfl⟩
    exact ⟨name, isName, rfl⟩

theorem declaresSignal_iff {config : Config} {field : Option String × Code} {signal : Signal} :
    DeclaresSignal config field signal ↔
      ∃ literal, signalLiteral? config field = some literal ∧ literal.signal? = some signal := by
  constructor
  · rintro ⟨path, inner, parts, rest, isField, namesSignal, isName, isArguments, isDefaults⟩
    exact ⟨⟨signal.field, parts⟩,
      signalLiteral?_eq_some_iff.mpr ⟨path, inner, rest, isField, namesSignal⟩,
      signal?_eq_some_iff.mpr ⟨rfl, isName, isArguments, isDefaults⟩⟩
  · rintro ⟨⟨name, parts⟩, isLiteral, isSignal⟩
    obtain ⟨path, inner, rest, isField, namesSignal⟩ := signalLiteral?_eq_some_iff.mp isLiteral
    obtain ⟨rfl, isName, isArguments, isDefaults⟩ := signal?_eq_some_iff.mp isSignal
    exact ⟨path, inner, parts, rest, isField, namesSignal, isName, isArguments, isDefaults⟩

/-! ## Signals of a package, place by place -/

/-- A package as one piece of code, whose parts are its units. -/
def codeOfUnits (units : List SourceUnit) : Code :=
  .other (units.map fun unit => .other unit.code)

theorem records_codeOfUnits (units : List SourceUnit) :
    (codeOfUnits units).records none = units.flatMap SourceUnit.records := by
  rw [codeOfUnits, Code.records, Code.recordsAll_eq_flatMap, List.flatMap_map]
  rfl

/-- A signal of a class stands at a place of a package: in a field, by its number, of a
record literal of the class, by its address. -/
def SignalAt (config : Config) (units : List SourceUnit) (className : String)
    (place : List Nat ×ₗ Nat) (signal : Signal) : Prop :=
  ∃ literal field,
    (codeOfUnits units).StandsAt none (ofLex place).1 literal ∧ IsLiteralOf className literal ∧
    literal.fields[(ofLex place).2]? = some field ∧ DeclaresSignal config field signal

theorem inOrder_signalsOf (config : Config) (units : List SourceUnit) (className : String) :
    InOrder (SignalAt config units className)
      (signalsOf config className (units.flatMap SourceUnit.records)) := by
  have literals := (codeOfUnits units).inOrder_records none
  rw [records_codeOfUnits] at literals
  have ofClass := literals.filter (isOfClass className)
  have inFields := ofClass.flatMap fun literal _ =>
    (InOrder.ofList literal.fields).filterMap (signalLiteral? config)
  refine (inFields.filterMap SignalLiteral.signal?).congr fun place signal => ?_
  constructor
  · rintro ⟨found, ⟨literal, ⟨stands, isOf⟩, field, isField, isLiteral⟩, isSignal⟩
    exact ⟨literal, field, stands, isOfClass_iff.mp isOf, isField,
      declaresSignal_iff.mpr ⟨found, isLiteral, isSignal⟩⟩
  · rintro ⟨literal, field, stands, isOf, isField, declares⟩
    obtain ⟨found, isLiteral, isSignal⟩ := declaresSignal_iff.mp declares
    exact ⟨found, ⟨literal, ⟨stands, isOfClass_iff.mpr isOf⟩, field, isField, isLiteral⟩,
      isSignal⟩

/-! ## The first signal of a field -/

/-- A signal that occurs at a place and at no earlier place any other of its field. -/
def FirstOfField {Place : Type} [LT Place] (occurs : Place → Signal → Prop) (place : Place)
    (signal : Signal) : Prop :=
  occurs place signal ∧
    ∀ earlier other, earlier < place → occurs earlier other → other.field ≠ signal.field

theorem keepFirst_of_mem {bound : List Signal} {signal : Signal}
    (taken : signal.field ∈ bound.map Signal.field) : keepFirst bound signal = bound := by
  obtain ⟨other, member, same⟩ := List.mem_map.mp taken
  apply if_pos
  exact List.any_eq_true.mpr ⟨other, member, beq_iff_eq.mpr same⟩

theorem keepFirst_of_not_mem {bound : List Signal} {signal : Signal}
    (free : signal.field ∉ bound.map Signal.field) :
    keepFirst bound signal = bound ++ [signal] := by
  apply if_neg
  intro taken
  obtain ⟨other, member, same⟩ := List.any_eq_true.mp taken
  exact free (List.mem_map.mpr ⟨other, member, eq_of_beq same⟩)

theorem nodup_fields_keepFirst {bound : List Signal}
    (distinct : (bound.map Signal.field).Nodup) (signal : Signal) :
    ((keepFirst bound signal).map Signal.field).Nodup := by
  by_cases taken : signal.field ∈ bound.map Signal.field
  · rwa [keepFirst_of_mem taken]
  · rw [keepFirst_of_not_mem taken, List.map_append, List.map_singleton, List.nodup_append_comm]
    exact List.nodup_cons.mpr ⟨taken, distinct⟩

theorem nodup_fields_foldl_keepFirst (signals : List Signal) {bound : List Signal}
    (distinct : (bound.map Signal.field).Nodup) :
    ((signals.foldl keepFirst bound).map Signal.field).Nodup := by
  induction signals generalizing bound with
  | nil => exact distinct
  | cons signal signals ih => exact ih (nodup_fields_keepFirst distinct signal)

/-- One more signal, after all others, is the first of its field unless that is taken. -/
theorem firstOfField_append_singleton_iff {Place : Type} [Preorder Place]
    {entries : List (Place × Signal)} {last : Place × Signal}
    (before : ∀ entry ∈ entries, entry.1 < last.1) {place : Place} {signal : Signal} :
    FirstOfField (fun place signal => (place, signal) ∈ entries ++ [last]) place signal ↔
      FirstOfField (fun place signal => (place, signal) ∈ entries) place signal ∨
        ((place, signal) = last ∧
          last.2.field ∉ (entries.map Prod.snd).map Signal.field) := by
  simp only [FirstOfField, List.mem_append, List.mem_singleton]
  constructor
  · rintro ⟨inside | rfl, first⟩
    · exact Or.inl ⟨inside, fun earlier other isEarlier isOther =>
        first earlier other isEarlier (Or.inl isOther)⟩
    · refine Or.inr ⟨rfl, ?_⟩
      intro taken
      obtain ⟨_, isOther, same⟩ := List.mem_map.mp taken
      obtain ⟨⟨earlier, other⟩, member, rfl⟩ := List.mem_map.mp isOther
      exact first earlier other (before _ member) (Or.inl member) same
  · rintro (⟨inside, first⟩ | ⟨rfl, free⟩)
    · refine ⟨Or.inl inside, ?_⟩
      rintro earlier other isEarlier (isOther | rfl)
      · exact first earlier other isEarlier isOther
      · exact absurd isEarlier (before _ inside).asymm
    · refine ⟨Or.inr rfl, ?_⟩
      rintro earlier other isEarlier (isOther | same)
      · intro sameField
        exact free (List.mem_map.mpr ⟨other, List.mem_map.mpr ⟨_, isOther, rfl⟩, sameField⟩)
      · obtain ⟨rfl, _⟩ := Prod.mk.inj same
        exact absurd isEarlier (lt_irrefl _)

/-- Of signals in order those are kept that are the first of their field. -/
theorem inOrder_foldl_keepFirst {Place : Type} [Preorder Place] {occurs : Place → Signal → Prop}
    {signals : List Signal} (inOrder : InOrder occurs signals) :
    InOrder (FirstOfField occurs) (signals.foldl keepFirst []) := by
  obtain ⟨entries, sorted, mem_iff, rfl⟩ := inOrder
  suffices kept : InOrder (FirstOfField fun place signal => (place, signal) ∈ entries)
      ((entries.map Prod.snd).foldl keepFirst []) from
    kept.congr fun place signal => by simp only [FirstOfField, mem_iff]
  clear mem_iff
  induction entries using List.reverseRecOn with
  | nil => exact InOrder.nil fun place signal first => List.not_mem_nil first.1
  | append_singleton entries last ih =>
      obtain ⟨sortedInit, _, beforeLast⟩ := List.pairwise_append.mp sorted
      have before : ∀ entry ∈ entries, entry.1 < last.1 := fun entry member =>
        beforeLast entry member last List.mem_cons_self
      have keptInit := ih sortedInit
      have taken_iff := @mem_fields_foldl_keepFirst_iff last.2.field (entries.map Prod.snd) []
      simp only [List.map_nil, List.not_mem_nil, false_or] at taken_iff
      rw [List.map_append, List.foldl_append, List.map_singleton, List.foldl_cons, List.foldl_nil]
      by_cases taken : last.2.field ∈ (entries.map Prod.snd).map Signal.field
      · rw [keepFirst_of_mem (taken_iff.mpr taken)]
        refine keptInit.congr fun place signal => ?_
        rw [firstOfField_append_singleton_iff before]
        simp only [taken, not_true_eq_false, and_false, or_false]
      · rw [keepFirst_of_not_mem (mt taken_iff.mp taken)]
        refine (keptInit.append (InOrder.singleton last.1 last.2) ?_).congr ?_
        · rintro place _ signal _ first ⟨rfl, _⟩
          exact before _ first.1
        · intro place signal
          rw [firstOfField_append_singleton_iff before]
          apply or_congr_right
          simp only [taken, not_false_eq_true, and_true, Prod.ext_iff]

/-! ## Scanned classes -/

/-- The signals of a class of a scanned package have distinct fields, and are those that
stand in the package as the first of their field, in the order of their places. -/
theorem package_signals {config : Config} {units : List SourceUnit} {registry : Registry}
    (isOk : (package config units).outcome = .ok registry) :
    ∀ entry ∈ registry.classes,
      (entry.signals.map Signal.field).Nodup ∧
      InOrder (FirstOfField (SignalAt config units entry.name)) entry.signals := by
  intro entry member
  obtain ⟨_, rfl⟩ := (package_exact config units registry).mp isOk
  rw [classes_ofClasses] at member
  obtain ⟨decl, _, rfl⟩ := List.mem_map.mp member
  constructor
  · exact nodup_fields_foldl_keepFirst _ List.nodup_nil
  · exact inOrder_foldl_keepFirst (inOrder_signalsOf config units decl.name)

/-- A signal literal with a name and nothing else. -/
def plainSignal (name : String) : Code :=
  .record (.ofName "Signal") [] [(some "name", .text name)] []

/-- A unit with a class and its `impl` block.  In it stands a literal of the class with a
signal without a name and another literal of the class inside, then an `impl` block for
another type, and then a literal of the class again. -/
def doorUnit : SourceUnit where
  attributes := []
  items := [
    .struct ⟨[docComment "godot::register"], "Door", [], .none⟩,
    .implementation {
      attributes := []
      heading := []
      owner := .path false [] (.plain "Door")
      members := [.other [
        .record (.ofName "Self") [] [
          (some "opened", .record (.ofName "Signal") [] [] []),
          (some "spare", .record (.ofName "Door") [] [(some "jammed", plainSignal "stuck")] []),
          (some "closed", plainSignal "shut")] [],
        .owned (some "Lock") [
          .record (.ofName "Self") [] [(some "opened", plainSignal "unlocked")] []],
        .record (.ofName "Self") [] [(some "jammed", plainSignal "blocked")] []]] }]

/-- A unit with one more literal of the class, outside of `impl` blocks. -/
def hingeUnit : SourceUnit where
  attributes := []
  items := [.other [
    .record (.ofName "Self") [] [(some "closed", plainSignal "lost")] [],
    .record ⟨false, ["parts"], "Door", true⟩ [] [(some "opened", plainSignal "opened")] []]]

/-- The class with the first signal of each field. -/
def doorClass : Entry.Class where
  name := "Door"
  signals := [
    { name := "shut", field := "closed" },
    { name := "stuck", field := "jammed" },
    { name := "opened", field := "opened" }]

/-- The signals come from the outer literal, the one inside it and the second unit. -/
theorem package_signals_door :
    (package {} [doorUnit, hingeUnit]).outcome = .ok (.ofClasses [doorClass]) ∧
    (doorClass.signals.map Signal.field).Nodup ∧
    InOrder (FirstOfField (SignalAt {} [doorUnit, hingeUnit] "Door")) doorClass.signals := by
  have isOk : (package {} [doorUnit, hingeUnit]).outcome = .ok (.ofClasses [doorClass]) := rfl
  exact ⟨isOk, package_signals isOk doorClass List.mem_cons_self⟩

/-- A signal of a class is declared by the signal literal at an address of a package. -/
def DeclaredAt (config : Config) (units : List SourceUnit) (className : String)
    (address : List Nat) (signal : Signal) : Prop :=
  ∃ place, SignalAt config units className place signal ∧
    (codeOfUnits units).fieldAddress? (ofLex place).1 (ofLex place).2 = some address

/-- A unit with a class.  A literal of the class stands in a field of another one, before a
signal literal for the same field. -/
def nestedUnit : SourceUnit where
  attributes := []
  items := [
    .struct ⟨[docComment "godot::register"], "Door", [], .none⟩,
    .other [.record (.ofName "Door") [] [
      (some "spare", .record (.ofName "Door") [] [(some "closed", plainSignal "inner")] []),
      (some "closed", plainSignal "outer")] []]]

/-- The class with the signal of the outer literal. -/
def nestedClass : Entry.Class where
  name := "Door"
  signals := [{ name := "outer", field := "closed" }]

/-- The signals of a class do not follow the signal literals themselves: one inside a literal
of the class comes after the other fields of this literal. -/
theorem package_signals_nested :
    (package {} [nestedUnit]).outcome = .ok (.ofClasses [nestedClass]) ∧
    ¬ InOrder (FirstOfField (DeclaredAt {} [nestedUnit] "Door")) nestedClass.signals := by
  have inner : SignalAt {} [nestedUnit] "Door" (toLex ([0, 0, 0], 0))
      { name := "inner", field := "closed" } :=
    ⟨_, _, .part rfl (.part rfl (.part rfl (.here _ _ _ _ _))), Or.inl rfl, rfl,
      declaresSignal_iff.mpr ⟨_, rfl, rfl⟩⟩
  have outer : SignalAt {} [nestedUnit] "Door" (toLex ([0, 0], 1))
      { name := "outer", field := "closed" } :=
    ⟨_, _, .part rfl (.part rfl (.here _ _ _ _ _)), Or.inl rfl, rfl,
      declaresSignal_iff.mpr ⟨_, rfl, rfl⟩⟩
  have inOrder := inOrder_signalsOf {} [nestedUnit] "Door"
  have distinct : ((signalsOf {} "Door" ([nestedUnit].flatMap SourceUnit.records)).map
      Signal.name).Nodup := by decide
  rcases inOrder.unique distinct (inOrder.mem_of_occurs outer) with ⟨place, _, only⟩
  refine ⟨rfl, ?_⟩
  rintro ⟨entries, _, mem_iff, isSignals⟩
  obtain ⟨⟨address, signal⟩, isEntry, rfl⟩ : ∃ entry ∈ entries,
      entry.2 = { name := "outer", field := "closed" } := by
    apply List.mem_map.mp
    rw [isSignals]
    exact List.mem_cons_self
  rcases (mem_iff _ _).mp isEntry with ⟨⟨found, isFound, isAddress⟩, first⟩
  have samePlace := (only found _ isFound rfl).1.trans (only _ _ outer rfl).1.symm
  rw [samePlace] at isAddress
  obtain rfl : [0, 0, 1] = address := Option.some.inj isAddress
  exact first [0, 0, 0, 0] _ (by decide) ⟨_, inner, rfl⟩ rfl

end NativeScript.Scan
