import Follon.Domain.Failure
import Follon.Foundation.SerdeJson

/-!
# Strategy bundles

The archive of a strategy's sources, one length-framed byte stream, and the
dependency lock that describes it file by file.
-/

namespace Follon.ControlPlane

open Foundation Domain

def strategyBundleFormat : String := "follon-strategy-bundle-v2"

def lockSchemaVersion : UInt64 := 1

def bundleNamespaces : List String := ["strategy", "sdk"]

def maxBundleBytes : Nat := 64 * 1024 * 1024

def bundleHeader : List UInt8 := strategyBundleFormat.toUTF8.toList ++ [0]

structure BundleEntryPoint where
  (strategyFile className : String)
  deriving DecidableEq

structure LockedFile where
  path : String
  bytes : UInt64
  sha256 : String
  deriving DecidableEq

structure BundleNamespace where
  name : String
  files : List LockedFile
  deriving DecidableEq

structure StrategyBundleLock where
  runtime : String
  entryPoint : BundleEntryPoint
  namespaces : List BundleNamespace
  strategyBundleHash : String
  deriving DecidableEq

/-! ## Texts of a lock -/

def isAsciiAlphanumeric (c : Char) : Bool :=
  isAsciiDigit c || ('a' ≤ c && c ≤ 'z') || ('A' ≤ c && c ≤ 'Z')

def isAsciiGraphic (c : Char) : Bool := '!' ≤ c && c ≤ '~'

def isRuntimePart (part : String) : Bool :=
  !part.isEmpty && part.toList.all fun c => isAsciiGraphic c && c != '|'

def isRuntime (runtime : String) : Bool :=
  let parts := splitAtChar '|' [] runtime.toList
  parts.length == 3 && parts.all isRuntimePart

def validateRuntime (runtime : String) : Result Unit :=
  refuseIf (isRuntime runtime = false)
    "runtime identity must be implementation|version|platform"

def isPathChar (c : Char) : Bool :=
  isAsciiAlphanumeric c || c == '.' || c == '_' || c == '-'

def isPathComponent (component : String) : Bool :=
  !component.isEmpty && component != "." && component != ".." &&
    component.toList.all isPathChar

def isBundlePath (path : String) : Bool :=
  decide (path.utf8ByteSize ≤ 1024) && endsWithText ".py" path &&
    (splitAtChar '/' [] path.toList).all isPathComponent

def validateBundlePath (path : String) : Result Unit :=
  refuseIf (isBundlePath path = false)
    ("strategy bundle path is not a safe relative source path: " ++ path)

def isPythonIdentifier (value : String) : Bool :=
  match value.toList with
  | [] => false
  | first :: rest =>
    (('a' ≤ first && first ≤ 'z') || ('A' ≤ first && first ≤ 'Z') || first == '_') &&
      rest.all fun c => isAsciiAlphanumeric c || c == '_'

/-! ## Reading a lock -/

section
variable {V : Type} [SerdeValue V]

def okOr {α : Type} (message : String) : Option α → Result α
  | some a => .ok a
  | none => .error ⟨message⟩

def canonicalJsonObject (bytes : List UInt8) (context : String) : Result V :=
  match SerdeValue.fromSlice bytes with
  | .ok value => do
    refuseIf (SerdeValue.toVec value ≠ bytes)
      (context ++ " is not canonical sorted-key compact JSON")
    pure value
  | .error e => .error ⟨context ++ " is not JSON: " ++ e⟩

def requireExactJsonFields (object : List (String × V))
    (expected : List String) (context : String) : Result Unit :=
  refuseIf (object.length ≠ expected.length ∨
      (expected.any fun field => (SerdeValue.get object field).isNone) = true)
    (context ++ " has missing or unknown fields")

def stringField (object : List (String × V)) (field context : String) : Result String :=
  okOr (context ++ " " ++ field ++ " must be a non-empty string")
    (((SerdeValue.get object field).bind SerdeValue.asStr).filter fun value =>
      !value.isEmpty)

def parseLockedFile (previous : Option LockedFile) (raw : V) : Result LockedFile := do
  let file ← okOr "dependency lock file entry is not an object"
    (SerdeValue.asObject raw)
  requireExactJsonFields file ["bytes", "path", "sha256"]
    "dependency lock file entry"
  let path ← stringField file "path" "dependency lock file entry"
  validateBundlePath path
  refuseIf ((previous.any fun previous => decide (path ≤ previous.path)) = true)
    "dependency lock files must be unique and in ascending path order"
  let bytes ← okOr "dependency lock file size is not an integer"
    ((SerdeValue.get file "bytes").bind SerdeValue.asU64)
  let sha256 ← stringField file "sha256" "dependency lock file entry"
  refuseIf (isDigest sha256 = false)
    "dependency lock file digest is not a lowercase SHA-256"
  pure { path, bytes, sha256 }

def parseLockedFiles : Option LockedFile → List V → Result (List LockedFile)
  | _, [] => .ok []
  | previous, raw :: rest => do
    let file ← parseLockedFile previous raw
    let files ← parseLockedFiles (some file) rest
    pure (file :: files)

def parseNamespace (raw : V) (expectedName : String) : Result BundleNamespace := do
  let object ← okOr "dependency lock namespace is not an object"
    (SerdeValue.asObject raw)
  requireExactJsonFields object ["files", "name"] "dependency lock namespace"
  let name ← stringField object "name" "dependency lock namespace"
  refuseIf (name ≠ expectedName)
    "dependency lock namespaces must be strategy then sdk"
  let rawFiles ← okOr (expectedName ++ " namespace locks no source files")
    (((SerdeValue.get object "files").bind SerdeValue.asArray).filter
      fun files => !files.isEmpty)
  let files ← parseLockedFiles none rawFiles
  pure { name := expectedName, files }

def parseNamespaces : List V → List String → Result (List BundleNamespace)
  | raw :: rest, expectedName :: names => do
    let parsed ← parseNamespace raw expectedName
    let namespaces ← parseNamespaces rest names
    pure (parsed :: namespaces)
  | _, _ => .ok []

def parseEntryPoint (raw : Option V) (namespaces : List BundleNamespace) :
    Result BundleEntryPoint := do
  let entry ← okOr "dependency lock entry point is not an object"
    (raw.bind SerdeValue.asObject)
  requireExactJsonFields entry ["class_name", "strategy_file"]
    "dependency lock entry point"
  let strategyFile ← stringField entry "strategy_file"
    "dependency lock entry point"
  let className ← stringField entry "class_name" "dependency lock entry point"
  refuseIf (strategyFile ∉ (namespaces.head?.map fun strategy =>
      strategy.files.map (·.path)).getD [])
    "entry point is not a file of the strategy namespace"
  refuseIf (isPythonIdentifier className = false)
    "entry point class is not an ASCII Python identifier"
  pure { strategyFile, className }

variable (V) in
def StrategyBundleLock.parse (bytes : List UInt8) : Result StrategyBundleLock := do
  let value : V ← canonicalJsonObject bytes "dependency lock"
  let object ← okOr "dependency lock is not an object"
    (SerdeValue.asObject value)
  requireExactJsonFields object
    ["bundle_format", "entry_point", "lock_schema_version", "namespaces",
      "runtime", "strategy_bundle_hash"] "dependency lock"
  refuseIf ((SerdeValue.get object "lock_schema_version").bind SerdeValue.asU64
      ≠ some lockSchemaVersion)
    "unsupported dependency lock schema version"
  let format ← stringField object "bundle_format" "dependency lock"
  refuseIf (format ≠ strategyBundleFormat) "unsupported strategy bundle format"
  let runtime ← stringField object "runtime" "dependency lock"
  validateRuntime runtime
  let strategyBundleHash ← stringField object "strategy_bundle_hash"
    "dependency lock"
  refuseIf (isDigest strategyBundleHash = false)
    "dependency lock bundle hash is not a lowercase SHA-256"
  let rawNamespaces ← okOr
    "dependency lock must list the strategy and sdk namespaces"
    (((SerdeValue.get object "namespaces").bind SerdeValue.asArray).filter
      fun namespaces => namespaces.length == bundleNamespaces.length)
  let namespaces ← parseNamespaces rawNamespaces bundleNamespaces
  let entryPoint ← parseEntryPoint (SerdeValue.get object "entry_point")
    namespaces
  pure { runtime, entryPoint, namespaces, strategyBundleHash }

end

/-! ## The archive of two trees -/

/-- A directory entry; a name is the bytes the file system holds, and of a
symlink it is kept whether it leads to a file. -/
inductive DirectoryEntry where
  | file (contents : List UInt8)
  | directory (entries : List (List UInt8 × DirectoryEntry))
  | symlink (toFile : Bool)
  | other

def intoString (name : List UInt8) : Option String := String.fromUTF8? ⟨name.toArray⟩

structure SourceFile where
  path : String
  contents : List UInt8
  deriving DecidableEq

def relativePath (prefixPath name : String) : String :=
  if prefixPath.isEmpty then name else prefixPath ++ "/" ++ name

mutual

def collectEntry (prefixPath : String) (name : List UInt8) :
    DirectoryEntry → Result (List SourceFile)
  | .file contents => do
    let name ← okOr "strategy bundle path is not UTF-8" (intoString name)
    pure (if endsWithText ".py" name then
      [{ path := relativePath prefixPath name, contents }] else [])
  | .directory entries => do
    let name ← okOr "strategy bundle path is not UTF-8" (intoString name)
    collectSources (relativePath prefixPath name) entries
  | .symlink _ => do
    let name ← okOr "strategy bundle path is not UTF-8" (intoString name)
    .error ⟨"strategy bundle cannot contain a symlink: " ++ relativePath prefixPath name⟩
  | .other => do
    let _ ← okOr "strategy bundle path is not UTF-8" (intoString name)
    pure []

def collectSources (prefixPath : String) :
    List (List UInt8 × DirectoryEntry) → Result (List SourceFile)
  | [] => .ok []
  | (name, entry) :: rest => do
    let first ← collectEntry prefixPath name entry
    let sources ← collectSources prefixPath rest
    pure (first ++ sources)

end

def sortSources (sources : List SourceFile) : List SourceFile :=
  sources.insertionSort fun left right => left.path ≤ right.path

def bundleSources (name : String) : DirectoryEntry → Result (List SourceFile)
  | .directory entries => do
    let sources ← collectSources "" entries
    refuseIf (sources = [])
      (name ++ " bundle root contains no Python source files")
    pure (sortSources sources)
  | _ => .error ⟨name ++ " bundle root must be a non-symlink directory"⟩

def pushU32Framed (archive value : List UInt8) : Result (List UInt8) := do
  refuseIf (2 ^ 32 ≤ value.length) "strategy bundle field is too long"
  pure (archive ++ framed 4 value)

def pushSource (archive : List UInt8) (source : SourceFile) : Result (List UInt8) := do
  let archive ← pushU32Framed archive source.path.toUTF8.toList
  let archive := archive ++ toBigEndian 8 source.contents.length ++
    source.contents
  refuseIf (maxBundleBytes < archive.length) "strategy bundle exceeds 64 MiB"
  pure archive

def pushNamespace (archive : List UInt8) (root : String × DirectoryEntry) :
    Result (List UInt8) := do
  let sources ← bundleSources root.1 root.2
  let archive ← pushU32Framed archive root.1.toUTF8.toList
  sources.foldlM pushSource archive

def buildStrategyBundle (strategyRoot sdkRoot : DirectoryEntry)
    (runtime : String) : Result (List UInt8) := do
  validateRuntime runtime
  let archive ← (bundleNamespaces.zip [strategyRoot, sdkRoot]).foldlM
    pushNamespace bundleHeader
  pushU32Framed archive runtime.toUTF8.toList

/-! ## Reading an archive -/

structure BundleSource where
  (namespaceName path : String)
  contents : List UInt8
  deriving DecidableEq

namespace ArchiveReader

def take (length : Nat) (bytes : List UInt8) : Result (List UInt8 × List UInt8) :=
  okOr "strategy archive is truncated" (takeBytes length bytes)

def u32Framed (bytes : List UInt8) : Result (List UInt8 × List UInt8) := do
  let (size, rest) ← take 4 bytes
  take (ofBigEndian size) rest

def u64 (bytes : List UInt8) : Result (UInt64 × List UInt8) := do
  let (value, rest) ← take 8 bytes
  pure (UInt64.ofNat (ofBigEndian value), rest)

end ArchiveReader

section
variable [ContentHash]

def openFile (name : String) (file : LockedFile) (bytes : List UInt8) :
    Result (BundleSource × List UInt8) := do
  let (path, rest) ← ArchiveReader.u32Framed bytes
  refuseIf (path ≠ file.path.toUTF8.toList)
    ("strategy archive does not contain " ++ name ++ "/" ++ file.path ++
      " where the lock says")
  let (length, rest) ← ArchiveReader.u64 rest
  refuseIf (length ≠ file.bytes)
    (name ++ "/" ++ file.path ++ " has a different size from its lock entry")
  let (contents, rest) ← ArchiveReader.take length.toNat rest
  refuseIf (ContentHash.hexDigest contents ≠ file.sha256)
    (name ++ "/" ++ file.path ++ " does not match its locked digest")
  pure ({ namespaceName := name, path := file.path, contents }, rest)

def openFiles (name : String) :
    List LockedFile → List UInt8 → Result (List BundleSource × List UInt8)
  | [], bytes => .ok ([], bytes)
  | file :: files, bytes => do
    let (source, rest) ← openFile name file bytes
    let (sources, rest) ← openFiles name files rest
    pure (source :: sources, rest)

def openNamespaces : List (BundleNamespace × String) → List UInt8 →
    Result (List BundleSource × List UInt8)
  | [], bytes => .ok ([], bytes)
  | (locked, name) :: more, bytes => do
    let (opened, rest) ← ArchiveReader.u32Framed bytes
    refuseIf (opened ≠ name.toUTF8.toList)
      ("strategy archive does not open the " ++ name ++ " namespace where the lock says")
    let (sources, rest) ← openFiles name locked.files rest
    let (others, rest) ← openNamespaces more rest
    pure (sources ++ others, rest)

def openStrategyBundle (archive : List UInt8) (lock : StrategyBundleLock) :
    Result (List BundleSource) := do
  refuseIf (ContentHash.hexDigest archive ≠ lock.strategyBundleHash)
    "strategy archive does not hash to the locked bundle hash"
  let (header, rest) ← ArchiveReader.take bundleHeader.length archive
  refuseIf (header ≠ bundleHeader)
    "strategy archive has an unknown format header"
  let (sources, rest) ← openNamespaces (lock.namespaces.zip bundleNamespaces)
    rest
  let (runtime, rest) ← ArchiveReader.u32Framed rest
  refuseIf (runtime ≠ lock.runtime.toUTF8.toList)
    "strategy archive was built for a different runtime than its lock"
  refuseIf (rest ≠ []) "strategy archive has bytes after its runtime identity"
  pure sources

end

end Follon.ControlPlane
