import Mathlib.Data.List.Sort
import NativeScript.Proofs.Bytes
import NativeScript.Proofs.Outcome
import NativeScript.SourceSet

/-!
# Loading a directory

A directory lists its entries in any order.  The source files among them are loaded in the order
of the bytes of their names, and the first one that cannot be loaded is reported.  Neither the
order of the listing nor an entry that is no source file has an influence.

All of this holds whatever unit the parser gives for a text.
-/

namespace NativeScript

open Source (SourceUnit)

namespace ListedEntry

variable {parse : String → Option SourceUnit} {config : Config} {directory : String}
  {entry : ListedEntry}

/-! ## Source files -/

/-- A regular file with the extension of source text, and not of generated text. -/
structure IsSource (config : Config) (entry : ListedEntry) : Prop where
  regular : ∃ content, entry.content = .file content
  extension : ∃ stem, stem ≠ [] ∧ entry.name.toList = stem ++ ".rs".toList
  written : ¬ (config.generatedInfix ≠ "" ∧
    config.generatedInfix.toList <:+: entry.name.toList)

theorem isFile_iff : entry.isFile = true ↔ ∃ content, entry.content = .file content := by
  unfold isFile
  cases entry.content <;> simp

theorem isSourceName_iff {name : String} :
    isSourceName name = true ↔ ∃ stem, stem ≠ [] ∧ name.toList = stem ++ ".rs".toList := by
  simp only [isSourceName, Option.any_eq_true, Text.before?_eq_some_iff, Bool.not_eq_true',
    List.isEmpty_eq_false_iff]
  exact exists_congr fun _ => and_comm

theorem isEligible_iff : entry.isEligible config = true ↔ IsSource config entry := by
  have isGenerated : config.isGenerated entry.name = true ↔
      config.generatedInfix ≠ "" ∧ config.generatedInfix.toList <:+: entry.name.toList := by
    simp [Config.isGenerated, Config.occurs_iff]
  rw [isEligible, Bool.and_eq_true, Bool.and_eq_true, isFile_iff, isSourceName_iff,
    Bool.not_eq_true', ← Bool.not_eq_true, isGenerated]
  constructor
  · rintro ⟨⟨regular, extension⟩, written⟩
    exact ⟨regular, extension, written⟩
  · rintro ⟨regular, extension, written⟩
    exact ⟨⟨regular, extension⟩, written⟩

/-! ## One file -/

/-- The unit of a file. -/
def load (parse : String → Option SourceUnit) (directory : String) (entry : ListedEntry) :
    Except ScanError SourceUnit :=
  match entry.text? with
  | none => .error (.unreadable (entry.path directory))
  | some text =>
      match parse text with
      | none => .error (.parse (entry.path directory))
      | some unit => .ok unit

/-- What a file gives: the unit that its text parses to, or why there is none. -/
inductive Loads (parse : String → Option SourceUnit) (directory : String) (entry : ListedEntry) :
    Except ScanError SourceUnit → Prop
  | unreadable (broken : ∀ text : String, entry.content ≠ .file text.toUTF8) :
      Loads parse directory entry (.error (.unreadable (entry.path directory)))
  | unparsed {text : String} (isText : entry.content = .file text.toUTF8)
      (foreign : parse text = none) :
      Loads parse directory entry (.error (.parse (entry.path directory)))
  | unit {text : String} {unit : SourceUnit} (isText : entry.content = .file text.toUTF8)
      (parsed : parse text = some unit) : Loads parse directory entry (.ok unit)

theorem fromUTF8?_eq_some_iff {content : ByteArray} {text : String} :
    String.fromUTF8? content = some text ↔ content = text.toUTF8 := by
  unfold String.fromUTF8?
  split
  · rw [Option.some_inj]
    constructor
    · rintro rfl
      rfl
    · rintro rfl
      rfl
  · rename_i broken
    refine iff_of_false nofun ?_
    rintro rfl
    exact broken text.isValidUTF8

theorem text?_eq_some_iff {text : String} :
    entry.text? = some text ↔ entry.content = .file text.toUTF8 := by
  unfold text?
  cases entry.content with
  | file content => simp [fromUTF8?_eq_some_iff]
  | directory => simp

theorem load_eq_iff {outcome : Except ScanError SourceUnit} :
    entry.load parse directory = outcome ↔ Loads parse directory entry outcome := by
  constructor
  · rintro rfl
    unfold load
    split
    · rename_i broken
      refine .unreadable fun text isText => ?_
      rw [text?_eq_some_iff.mpr isText] at broken
      cases broken
    · rename_i text isText
      have isText := text?_eq_some_iff.mp isText
      split
      · rename_i foreign
        exact .unparsed isText foreign
      · rename_i unit parsed
        exact .unit isText parsed
  · intro loads
    unfold load
    cases loads with
    | unreadable broken =>
        cases found : entry.text? with
        | none => rfl
        | some text => exact absurd (text?_eq_some_iff.mp found) (broken text)
    | unparsed isText foreign => simp only [text?_eq_some_iff.mpr isText, foreign]
    | unit isText parsed => simp only [text?_eq_some_iff.mpr isText, parsed]

/-! ## The order of files -/

/-- The bytes of one name are below those of the other. -/
def Below (first second : ListedEntry) : Prop :=
  Text.bytes first.name.toList < Text.bytes second.name.toList

instance (first second : ListedEntry) : Decidable (Below first second) :=
  inferInstanceAs (Decidable (_ < _))

instance : Std.Irrefl Below where
  irrefl entry := List.lt_irrefl (Text.bytes entry.name.toList)

instance : Std.Antisymm Below where
  antisymm _ _ below above := absurd above (List.lt_asymm below)

theorem below_of_le {first second : ListedEntry} (le : first.name ≤ second.name)
    (different : first.name ≠ second.name) : Below first second := by
  have lower : first.name < second.name :=
    String.not_le.mp fun ge => different (String.le_antisymm le ge)
  exact Text.bytes_lt_of_lt (String.lt_iff.mp lower)

/-- Files that are listed by the bytes of their names are in one order only. -/
theorem eq_of_pairwise_below {files others : List ListedEntry} (ordered : files.Pairwise Below)
    (orderedToo : others.Pairwise Below) (same : ∀ entry, entry ∈ files ↔ entry ∈ others) :
    files = others :=
  ordered.eq_of_mem_iff orderedToo same

end ListedEntry

namespace SourceSet

open ListedEntry (IsSource Loads Below)

variable {parse : String → Option SourceUnit} {config : Config} {directory : String}
  {listing : List ListedEntry}

theorem mem_eligible_iff {entry : ListedEntry} :
    entry ∈ eligible config listing ↔ entry ∈ listing ∧ IsSource config entry := by
  rw [eligible, List.mem_mergeSort, List.mem_filter, ListedEntry.isEligible_iff]

theorem pairwise_below_eligible (distinct : (listing.map ListedEntry.name).Nodup) :
    (eligible config listing).Pairwise Below := by
  have sorted : (eligible config listing).Pairwise fun first second =>
      decide (first.name ≤ second.name) = true := by
    refine List.pairwise_mergeSort (fun _ _ _ le further => ?_) (fun first second => ?_) _
    · rw [decide_eq_true_iff] at le further ⊢
      exact String.le_trans le further
    · simp [String.le_total first.name second.name]
  have names : ((eligible config listing).map ListedEntry.name).Nodup := by
    have kept : ((listing.filter (ListedEntry.isEligible config)).map ListedEntry.name).Nodup :=
      distinct.sublist (List.filter_sublist.map _)
    exact ((List.mergeSort_perm _ _).map _).nodup_iff.mpr kept
  exact (sorted.and (List.pairwise_map.mp names)).imp fun both =>
    ListedEntry.below_of_le (of_decide_eq_true both.1) both.2

/-! ## All files -/

theorem addFile_eq (set : SourceSet) (entry : ListedEntry) :
    addFile parse directory set entry =
      (entry.load parse directory).map fun unit =>
        ⟨set.sources ++ [(entry.path directory, unit)]⟩ := by
  unfold addFile ListedEntry.load
  cases entry.text? with
  | none => rfl
  | some text =>
      dsimp only
      unfold add
      cases parse text <;> rfl

/-- Files are loaded one after the other, each beside where it is. -/
theorem foldlM_addFile (files : List ListedEntry) (set : SourceSet) :
    files.foldlM (addFile parse directory) set =
      (files.mapM (ListedEntry.load parse directory)).map fun units =>
        ⟨set.sources ++ (files.map (ListedEntry.path directory)).zip units⟩ := by
  induction files generalizing set with
  | nil => simp [Pure.pure, Except.pure]
  | cons file files ih =>
      rw [List.foldlM_cons, List.mapM_cons, addFile_eq, Outcome.map_bind]
      cases file.load parse directory with
      | error error => rfl
      | ok unit =>
          rw [Outcome.map_ok, Outcome.ok_bind, Outcome.ok_bind, ih]
          cases files.mapM (ListedEntry.load parse directory) <;>
            simp [Except.map, Pure.pure, Except.pure]

theorem readDirectory_eq :
    readDirectory parse config directory (some listing) =
      ((eligible config listing).mapM (ListedEntry.load parse directory)).map fun units =>
        ⟨((eligible config listing).map (ListedEntry.path directory)).zip units⟩ :=
  foldlM_addFile (eligible config listing) empty

theorem exists_readDirectory_eq_ok_iff :
    (∃ set, readDirectory parse config directory (some listing) = .ok set) ↔
      ∀ entry ∈ listing, IsSource config entry →
        ∃ unit, Loads parse directory entry (.ok unit) := by
  have loads_iff :
      (∀ file ∈ eligible config listing, ∃ unit, file.load parse directory = .ok unit) ↔
        ∀ entry ∈ listing, IsSource config entry →
          ∃ unit, Loads parse directory entry (.ok unit) := by
    simp only [mem_eligible_iff, and_imp, ListedEntry.load_eq_iff]
  rw [← loads_iff, ← Outcome.exists_mapM_eq_ok_iff, readDirectory_eq]
  simp only [Outcome.map_eq_ok_iff]
  constructor
  · rintro ⟨_, units, areOk, _⟩
    exact ⟨units, areOk⟩
  · rintro ⟨units, areOk⟩
    exact ⟨_, units, areOk, rfl⟩

/-- What a directory gives is aligned: each file has its place and its unit. -/
theorem aligned_of_readDirectory_eq_ok {set : SourceSet}
    (isOk : readDirectory parse config directory (some listing) = .ok set) :
    set.origins = (eligible config listing).map (ListedEntry.path directory) ∧
      List.Forall₂ (fun file unit => Loads parse directory file (.ok unit))
        (eligible config listing) set.units := by
  rw [readDirectory_eq, Outcome.map_eq_ok_iff] at isOk
  obtain ⟨units, areOk, rfl⟩ := isOk
  have loaded := Outcome.mapM_eq_ok_iff.mp areOk
  have lengths : (eligible config listing).length = units.length := loaded.length_eq
  have isUnits : units = SourceSet.units
      ⟨((eligible config listing).map (ListedEntry.path directory)).zip units⟩ :=
    (List.map_snd_zip (by simp [lengths])).symm
  refine ⟨List.map_fst_zip (by simp [lengths]), ?_⟩
  rw [← isUnits]
  exact loaded.imp fun _ _ => ListedEntry.load_eq_iff.mp

/-- The first of some files that gives no unit, and why. -/
def FailsFirst (parse : String → Option SourceUnit) (directory : String)
    (files : List ListedEntry) (error : ScanError) : Prop :=
  ∃ before file after, files = before ++ file :: after ∧
    (∀ other ∈ before, ∃ unit, Loads parse directory other (.ok unit)) ∧
    Loads parse directory file (.error error)

theorem readDirectory_eq_error_iff {error : ScanError} :
    readDirectory parse config directory (some listing) = .error error ↔
      FailsFirst parse directory (eligible config listing) error := by
  rw [readDirectory_eq, Outcome.map_eq_error_iff, Outcome.mapM_eq_error_iff]
  simp only [ListedEntry.load_eq_iff, FailsFirst]

/-- A directory is loaded through its source files alone. -/
theorem readDirectory_congr {others : List ListedEntry}
    (distinct : (listing.map ListedEntry.name).Nodup)
    (distinctToo : (others.map ListedEntry.name).Nodup)
    (same : ∀ entry, IsSource config entry → (entry ∈ others ↔ entry ∈ listing)) :
    readDirectory parse config directory (some others) =
      readDirectory parse config directory (some listing) := by
  have files : eligible config others = eligible config listing := by
    refine ListedEntry.eq_of_pairwise_below (pairwise_below_eligible distinctToo)
      (pairwise_below_eligible distinct) fun entry => ?_
    rw [mem_eligible_iff, mem_eligible_iff]
    exact and_congr_left (same entry)
  rw [readDirectory_eq, readDirectory_eq, files]

/-! ## Loading -/

/-- With whatever parser, a directory can be read exactly if every source file in it is text in
UTF-8 that parses.  Its origins are then where the source files are, in the order of the bytes of
their names, and its units what they parse to, in the same order.  Otherwise the first file in
this order that gives no unit is reported.  Another listing of the same source files, in whatever
order and among whatever other entries, gives the same. -/
theorem readDirectory_loads (parse : String → Option SourceUnit) (config : Config)
    (directory : String) (listing : List ListedEntry)
    (distinct : (listing.map ListedEntry.name).Nodup) :
    let outcome := readDirectory parse config directory (some listing)
    ((∃ set, outcome = .ok set) ↔
        ∀ entry ∈ listing, IsSource config entry →
          ∃ unit, Loads parse directory entry (.ok unit)) ∧
      (∃ files : List ListedEntry,
        files.Pairwise Below ∧
        (∀ entry, entry ∈ files ↔ entry ∈ listing ∧ IsSource config entry) ∧
        (∀ set, outcome = .ok set →
          set.origins = files.map (ListedEntry.path directory) ∧
          List.Forall₂ (fun file unit => Loads parse directory file (.ok unit)) files set.units ∧
          set.origins.length = set.units.length) ∧
        ∀ error, outcome = .error error ↔ FailsFirst parse directory files error) ∧
      ∀ others : List ListedEntry, (others.map ListedEntry.name).Nodup →
        (∀ entry, IsSource config entry → (entry ∈ others ↔ entry ∈ listing)) →
        readDirectory parse config directory (some others) = outcome := by
  refine ⟨exists_readDirectory_eq_ok_iff,
    ⟨eligible config listing, pairwise_below_eligible distinct, fun _ => mem_eligible_iff,
      fun set isOk => ?_, fun _ => readDirectory_eq_error_iff⟩,
    fun _ => readDirectory_congr distinct⟩
  obtain ⟨isOrigins, loaded⟩ := aligned_of_readDirectory_eq_ok isOk
  refine ⟨isOrigins, loaded, ?_⟩
  rw [isOrigins, List.length_map, loaded.length_eq]

/-- The directory and the broken file of generated text do not count, and the file that is listed
last is loaded first.  Of two broken files the one with the lower name is reported. -/
theorem readDirectory_loads_hero :
    let file (name : String) (content : ByteArray) : ListedEntry := ⟨name, .file content⟩
    let hero := file "hero.rs" "".toUTF8
    let map := file "map.rs" "".toUTF8
    let listing := [map, ⟨"old.rs", .directory⟩, file "a.gen.rs" ⟨#[255]⟩, hero]
    let broken := [file "town.rs" ⟨#[255]⟩, file "sea.rs" ⟨#[255]⟩, hero]
    (listing.map ListedEntry.name).Nodup ∧ (broken.map ListedEntry.name).Nodup ∧
      (∃ set, ofDirectory {} "src" (some listing) = .ok set ∧
        set.origins = ["src/hero.rs", "src/map.rs"]) ∧
      ofDirectory {} "src" (some [hero, map]) = ofDirectory {} "src" (some listing) ∧
      ofDirectory {} "src" (some broken) = .error (.unreadable "src/sea.rs") := by
  intro file hero map listing broken
  have distinct : (listing.map ListedEntry.name).Nodup := by decide
  have distinctBroken : (broken.map ListedEntry.name).Nodup := by decide
  have kept : listing.filter (ListedEntry.isEligible {}) = [map, hero] := by
    have count : map.isEligible {} = true ∧ hero.isEligible {} = true := by decide
    have doNot : (ListedEntry.mk "old.rs" .directory).isEligible {} = false ∧
        (file "a.gen.rs" ⟨#[255]⟩).isEligible {} = false := by decide
    simp [listing, count, doNot]
  have keptBroken : broken.filter (ListedEntry.isEligible {}) = broken :=
    List.filter_eq_self.mpr (by decide)
  have loadsHero : Loads SourceUnit.ofText? "src" hero (.ok ⟨[], []⟩) := .unit rfl rfl
  have loadsMap : Loads SourceUnit.ofText? "src" map (.ok ⟨[], []⟩) := .unit rfl rfl
  have isOnly {entries files : List ListedEntry} (found : List ListedEntry)
      (ordered : files.Pairwise Below)
      (mem_iff : ∀ entry, entry ∈ files ↔ entry ∈ entries ∧ IsSource {} entry)
      (foundOrdered : found.Pairwise Below)
      (kept : entries.filter (ListedEntry.isEligible {}) = found.reverse) : files = found := by
    refine ListedEntry.eq_of_pairwise_below ordered foundOrdered fun entry => ?_
    rw [mem_iff, ← ListedEntry.isEligible_iff, ← List.mem_filter, kept, List.mem_reverse]
  obtain ⟨loads_iff, ⟨files, ordered, mem_iff, aligned, _⟩, congr⟩ :=
    readDirectory_loads SourceUnit.ofText? {} "src" listing distinct
  obtain ⟨_, ⟨filesBroken, orderedBroken, mem_iff_broken, _, error_iff⟩, _⟩ :=
    readDirectory_loads SourceUnit.ofText? {} "src" broken distinctBroken
  have isFiles : files = [hero, map] := isOnly _ ordered mem_iff (by decide) kept
  have isFilesBroken : filesBroken = [hero, file "sea.rs" ⟨#[255]⟩, file "town.rs" ⟨#[255]⟩] :=
    isOnly _ orderedBroken mem_iff_broken (by decide) keptBroken
  refine ⟨distinct, distinctBroken, ?_, ?_, ?_⟩
  · have areOk : ∀ entry ∈ listing, IsSource {} entry →
        ∃ unit, Loads SourceUnit.ofText? "src" entry (.ok unit) := by
      intro entry member isSource
      have isOne : entry ∈ files := (mem_iff entry).mpr ⟨member, isSource⟩
      rw [isFiles, List.mem_pair] at isOne
      rcases isOne with rfl | rfl
      · exact ⟨_, loadsHero⟩
      · exact ⟨_, loadsMap⟩
    obtain ⟨set, isOk⟩ := loads_iff.mpr areOk
    refine ⟨set, isOk, ?_⟩
    rw [(aligned set isOk).1, isFiles]
    decide
  · refine congr [hero, map] (by decide) fun entry isSource => ?_
    rw [← isFiles, mem_iff]
    exact and_iff_left isSource
  · have fails : Loads SourceUnit.ofText? "src" (file "sea.rs" ⟨#[255]⟩)
        (.error (.unreadable "src/sea.rs")) := ListedEntry.load_eq_iff.mp rfl
    refine (error_iff (.unreadable "src/sea.rs")).mpr ?_
    rw [isFilesBroken]
    exact ⟨[hero], _, _, rfl, by simpa using ⟨_, loadsHero⟩, fails⟩

end SourceSet

end NativeScript
