/-!
# Files

What a program can see of a file system: what stands at each path.  A file is read as text, which
fails if it cannot be read or is not in UTF-8.
-/

namespace PluginKit

/-- Why something cannot be read as text. -/
inductive ReadFault
  /-- The bytes are not in UTF-8. -/
  | notText
  /-- It is a directory. -/
  | isDirectory
  /-- The system refuses, for the reason given. -/
  | refused (reason : String)
  deriving DecidableEq, Repr

/-- The reason in words. -/
def ReadFault.message : ReadFault → String
  | .notText => "stream did not contain valid UTF-8"
  | .isDirectory => "Is a directory (os error 21)"
  | .refused reason => reason

/-- The text that bytes in UTF-8 spell. -/
def textOfBytes (bytes : ByteArray) : Except ReadFault String :=
  match String.fromUTF8? bytes with
  | some text => .ok text
  | none => .error .notText

/-- What stands at a path. -/
inductive FileState
  | missing
  | directory
  /-- There is a file, but the system refuses to read it. -/
  | locked (reason : String)
  | file (bytes : ByteArray)

namespace FileState

/-- The text of the file; none if nothing stands there. -/
def read? : FileState → Option (Except ReadFault String)
  | .missing => none
  | .directory => some (.error .isDirectory)
  | .locked reason => some (.error (.refused reason))
  | .file bytes => some (textOfBytes bytes)

theorem read?_eq_ok {state : FileState} {text : String} :
    state.read? = some (.ok text) ↔
      ∃ bytes, state = .file bytes ∧ String.fromUTF8? bytes = some text := by
  constructor
  · intro h
    cases state with
    | missing | directory | locked reason => cases h
    | file bytes =>
      refine ⟨bytes, rfl, ?_⟩
      have htext : textOfBytes bytes = .ok text := Option.some.inj h
      unfold textOfBytes at htext
      split at htext
      · next hbytes =>
        cases htext
        exact hbytes
      · cases htext
  · rintro ⟨bytes, rfl, htext⟩
    unfold read? textOfBytes
    simp only [htext]

end FileState

/-- What stands at each path, which is absolute or begins in the current directory. -/
abbrev FileSystem := String → FileState

namespace FileSystem

/-- The path of a name in a directory, whose own path may end in a slash. -/
def pathIn (directory name : String) : String :=
  if directory.toList.getLast? = some '/' then directory ++ name else directory ++ "/" ++ name

/-! ## A file system in memory -/

/-- The state of a list of names from the root on, where `entries` gives the files and directories.
A name that leads to an entry is a directory. -/
def stateOf (entries : List (List String × FileState)) (names : List String) : FileState :=
  match entries.find? (·.1 == names) with
  | some (_, state) => state
  | none => if entries.any fun entry => names.isPrefixOf entry.1 then .directory else .missing

/-- One step along a path.  Only a directory has steps; a step to the parent of the root stays
there. -/
def step (entries : List (List String × FileState)) (names : List String) (name : String) :
    Option (List String) :=
  match stateOf entries names with
  | .directory =>
    if name = "" ∨ name = "." then some names
    else if name = ".." then some names.dropLast
    else some (names ++ [name])
  | _ => none

/-- The number of bytes from which on a path leads nowhere. -/
def pathLimit : Nat :=
  4096

/-- The file system of some entries, each with the names that lead to it from the root, seen from a
current directory. -/
def ofEntries (current : List String) (entries : List (List String × FileState)) : FileSystem :=
  fun path =>
    let steps := (path.toList.splitOn '/').map String.ofList
    let start := if path.toList.head? = some '/' then [] else current
    if path.isEmpty || pathLimit ≤ path.utf8ByteSize then .missing
    else
      match steps.foldlM (step entries) start with
      | some names => stateOf entries names
      | none => .missing

end FileSystem

end PluginKit
