import NativeScript.Config
import NativeScript.Scan.Error
import NativeScript.Source.Reader
import NativeScript.Text.Lead

/-!
# Source sets

The units of a package are read from named texts, or from the files of a
directory.  Every unit stands beside the origin it came from.  From a directory
only the files directly inside it count whose name ends in `.rs` and is not that
of generated text; they are taken in the order of their names, whatever order
the directory lists them in.

What unit a text parses to is for a parser to say, and every function that reads
takes the parser as a parameter.  Only `ofTexts` and `ofDirectory`, at the end,
fix it to the reader of this library.
-/

namespace NativeScript

open Source (SourceUnit)

/-- Units that are scanned together, each with its origin. -/
structure SourceSet where
  sources : List (String × SourceUnit)

namespace SourceSet

/-- A set without units. -/
def empty : SourceSet := ⟨[]⟩

/-- Where the units came from. -/
def origins (set : SourceSet) : List String :=
  set.sources.map Prod.fst

/-- The units of a set. -/
def units (set : SourceSet) : List SourceUnit :=
  set.sources.map Prod.snd

/-- The number of units. -/
def size (set : SourceSet) : Nat :=
  set.sources.length

/-- Whether there is no unit. -/
def isEmpty (set : SourceSet) : Bool :=
  set.sources.isEmpty

/-- Parse a text and add the unit. -/
def add (parse : String → Option SourceUnit) (set : SourceSet) (origin text : String) :
    Except ScanError SourceSet :=
  match parse text with
  | none => .error (.parse origin)
  | some unit => .ok ⟨set.sources ++ [(origin, unit)]⟩

/-- Parse texts, each with its origin, one after the other. -/
def readTexts (parse : String → Option SourceUnit) (texts : List (String × String)) :
    Except ScanError SourceSet :=
  texts.foldlM (fun set source => set.add parse source.1 source.2) empty

end SourceSet

/-! ## Directories -/

/-- What a directory lists under a name. -/
inductive ListedContent where
  | file (bytes : ByteArray)
  | directory

/-- An entry of a directory. -/
structure ListedEntry where
  name : String
  content : ListedContent

namespace ListedEntry

/-- Whether an entry is a file. -/
def isFile (entry : ListedEntry) : Bool :=
  match entry.content with
  | .file _ => true
  | .directory => false

/-- Whether a name has the extension of source text and something before it. -/
def isSourceName (name : String) : Bool :=
  (Text.before? ".rs".toList name.toList).any fun stem => !stem.isEmpty

/-- Whether an entry is a file to be scanned. -/
def isEligible (config : Config) (entry : ListedEntry) : Bool :=
  entry.isFile && isSourceName entry.name && !config.isGenerated entry.name

/-- Where an entry of a directory is.  A slash stands between the two names, unless that of the
directory is empty or ends in one. -/
def path (directory : String) (entry : ListedEntry) : String :=
  if directory.toList.getLast?.all (· == '/') then
    directory ++ entry.name
  else
    directory ++ "/" ++ entry.name

/-- The text of a file, if it is well-formed UTF-8. -/
def text? (entry : ListedEntry) : Option String :=
  match entry.content with
  | .file bytes => String.fromUTF8? bytes
  | .directory => none

end ListedEntry

namespace SourceSet

/-- The files to be scanned among listed entries, in the order of their names. -/
def eligible (config : Config) (listing : List ListedEntry) : List ListedEntry :=
  (listing.filter (ListedEntry.isEligible config)).mergeSort fun first second =>
    decide (first.name ≤ second.name)

/-- Parse a file of a directory and add the unit. -/
def addFile (parse : String → Option SourceUnit) (directory : String) (set : SourceSet)
    (entry : ListedEntry) : Except ScanError SourceSet :=
  match entry.text? with
  | none => .error (.unreadable (entry.path directory))
  | some text => set.add parse (entry.path directory) text

/-- Parse the source files of a directory.  There is no listing if the directory
cannot be read. -/
def readDirectory (parse : String → Option SourceUnit) (config : Config) (directory : String)
    (listing : Option (List ListedEntry)) : Except ScanError SourceSet :=
  match listing with
  | none => .error (.unreadable directory)
  | some entries => (eligible config entries).foldlM (addFile parse directory) empty

/-! ## With the reader of units -/

/-- Read texts, each with its origin. -/
def ofTexts (texts : List (String × String)) : Except ScanError SourceSet :=
  readTexts SourceUnit.ofText? texts

/-- Read the source files of a directory. -/
def ofDirectory (config : Config) (directory : String) (listing : Option (List ListedEntry)) :
    Except ScanError SourceSet :=
  readDirectory SourceUnit.ofText? config directory listing

end SourceSet

end NativeScript
