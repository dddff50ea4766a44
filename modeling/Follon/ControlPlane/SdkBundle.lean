import Follon.ControlPlane.Bundle

/-!
# The bundle of the strategy SDK

The SDK enumerates the sources of a strategy and of itself, hashes them in one
framed stream, and writes the dependency lock that a capsule is opened under.
-/

namespace Follon.ControlPlane.StrategySdk

open Foundation Domain

/-! ## Source files -/

def matchesPython (name : List UInt8) : Bool :=
  match intoString name with
  | some name => endsWithText ".py" name
  | none => [0x2e, 0x70, 0x79].isSuffixOf name

/-- `relative_to(root).as_posix()`, of a path that can be encoded. -/
def asPosix (directory : Option String) (name : List UInt8) : Option String := do
  let directory ← directory
  let name ← intoString name
  pure (relativePath directory name)

structure FoundFile where
  path : Option String
  contents : List UInt8
  isSymlink : Bool
  deriving DecidableEq

mutual

def globEntry (directory : Option String) (name : List UInt8) :
    DirectoryEntry → List FoundFile
  | .file contents =>
    if matchesPython name then
      [{ path := asPosix directory name, contents, isSymlink := false }]
    else []
  | .directory entries => rglob (asPosix directory name) entries
  | .symlink toFile =>
    if (toFile && matchesPython name) = true then
      [{ path := asPosix directory name, contents := [], isSymlink := true }]
    else []
  | .other => []

def rglob (directory : Option String) :
    List (List UInt8 × DirectoryEntry) → List FoundFile
  | [] => []
  | (name, entry) :: rest =>
    globEntry directory name entry ++ rglob directory rest

end

def encodedPath (found : FoundFile) : Result SourceFile := do
  let path ← okOr "surrogates not allowed" found.path
  pure { path, contents := found.contents }

def sourceFiles : DirectoryEntry → Result (List SourceFile)
  | .directory entries => do
    let files := rglob (some "") entries
    refuseIf (files = []) "strategy bundle contains no Python source files"
    refuseIf ((files.any (·.isSymlink)) = true)
      "strategy bundle cannot contain symlinked source"
    let sources ← collect encodedPath files
    pure (sortSources sources)
  | _ => .error ⟨"strategy bundle root must be a non-symlink directory"⟩

def sdkNamespaces (root sdkRoot : DirectoryEntry) :
    Result (List (String × List SourceFile)) := do
  let strategy ← sourceFiles root
  let sdk ← sourceFiles sdkRoot
  pure [("strategy", strategy), ("sdk", sdk)]

/-! ## The hashed stream -/

def toBytes (width value : Nat) : Result (List UInt8) := do
  refuseIf (256 ^ width ≤ value) "int too big to convert"
  pure (toBigEndian width value)

def updateFramed (width : Nat) (hashed value : List UInt8) : Result (List UInt8) := do
  let length ← toBytes width value.length
  pure (hashed ++ length ++ value)

def updateFile (hashed : List UInt8) (file : SourceFile) : Result (List UInt8) := do
  let hashed ← updateFramed 4 hashed file.path.toUTF8.toList
  updateFramed 8 hashed file.contents

def updateNamespace (hashed : List UInt8)
    (files : String × List SourceFile) : Result (List UInt8) := do
  let hashed ← updateFramed 4 hashed files.1.toUTF8.toList
  files.2.foldlM updateFile hashed

def bundleStream (namespaces : List (String × List SourceFile))
    (runtime : String) : Result (List UInt8) := do
  let hashed ← namespaces.foldlM updateNamespace bundleHeader
  updateFramed 4 hashed runtime.toUTF8.toList

def bundleDigest [ContentHash]
    (namespaces : List (String × List SourceFile)) (runtime : String) :
    Result String := do
  let hashed ← bundleStream namespaces runtime
  pure (ContentHash.hexDigest hashed)

/-! ## The dependency lock -/

/-- How `json.dumps` spells a character with `ensure_ascii`. -/
def asciiChar (c : Char) : List Char :=
  if c = '"' then ['\\', '"']
  else if c = '\\' then ['\\', '\\']
  else if c = '\n' then ['\\', 'n']
  else if c = '\r' then ['\\', 'r']
  else if c = '\t' then ['\\', 't']
  else if c = Char.ofNat 12 then ['\\', 'f']
  else if c = Char.ofNat 8 then ['\\', 'b']
  else if ' ' ≤ c ∧ c ≤ '~' then [c]
  else if c.toNat < 0x10000 then '\\' :: 'u' :: hexDigits c.toNat
  else
    '\\' :: 'u' :: (hexDigits (0xd800 + (c.toNat - 0x10000) / 0x400) ++
      '\\' :: 'u' :: hexDigits (0xdc00 + (c.toNat - 0x10000) % 0x400))

def isClassName (value : String) : Bool :=
  match value.toList with
  | [] => false
  | first :: rest =>
    (('A' ≤ first && first ≤ 'Z') || ('a' ≤ first && first ≤ 'z') || first == '_') &&
      rest.all fun c => ('A' ≤ c && c ≤ 'Z') || ('a' ≤ c && c ≤ 'z') ||
        isAsciiDigit c || c == '_'

section
variable [ContentHash]

def fileDocument (file : SourceFile) : Json :=
  .obj
    [("bytes", .num file.contents.length), ("path", .str file.path),
      ("sha256", .str (ContentHash.hexDigest file.contents))]

def namespaceDocument (files : String × List SourceFile) : Json :=
  .obj
    [("files", .arr (files.2.map fileDocument)), ("name", .str files.1)]

def lockDocument (namespaces : List (String × List SourceFile))
    (entry className runtime bundleHash : String) : Json :=
  .obj
    [("bundle_format", .str strategyBundleFormat), ("entry_point", .obj
        [("class_name", .str className), ("strategy_file", .str entry)]),
      ("lock_schema_version", .num lockSchemaVersion.toNat),
      ("namespaces", .arr (namespaces.map namespaceDocument)),
      ("runtime", .str runtime),
      ("strategy_bundle_hash", .str bundleHash)]

/-- `entry` is the strategy file relative to the resolved root. -/
def strategyBundleLock (root sdkRoot : DirectoryEntry)
    (entry className runtime : String) : Result (List UInt8) := do
  let namespaces ← sdkNamespaces root sdkRoot
  refuseIf (entry ∉ (namespaces.head?.map fun strategy =>
      strategy.2.map (·.path)).getD [])
    "strategy file must be a source file inside the bundle root"
  refuseIf (isClassName className = false)
    "strategy class name must be an ASCII Python identifier"
  let bundleHash ← bundleDigest namespaces runtime
  let document := lockDocument namespaces entry className runtime bundleHash
  pure (Json.print asciiChar document).toUTF8.toList

end

end Follon.ControlPlane.StrategySdk
