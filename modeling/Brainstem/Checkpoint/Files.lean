import Brainstem.Lib.FilePath
import Brainstem.Lib.Proc

/-!
# The files of a checkpoint

`model_path` names a sidecar, the `config.json` of a hub checkout, or a directory.
`resolveSidecarPath` finds the sidecar and `findHubConfig` the `config.json` next to it or
above it.  The two search the same places, each in its own order:

    R/snn_model.json    R/dataset/merged_v2/snn_model.json
    R/config.json       R/dataset/merged_v2/config.json
-/

namespace Brainstem.Checkpoint

/-- How loading a checkpoint fails. -/
inductive Failure where
  | bail (text : String)
  | panicked (text : String)
  deriving DecidableEq, Repr

def bail {α : Type} (text : String) : Except Failure α := .error (.bail text)

/-! ## The file system -/

inductive FileKind where
  | directory
  | regular
  | other
  deriving DecidableEq, Repr

/-- What the operating system answers about a path while the checkpoint is loaded: that it
cannot tell, that nothing is there, or what is there; and the bytes, or why it cannot read.  How
often a separator is repeated makes no difference to it, and whatever trails the last name asks
for a directory. -/
structure FileTree where
  metadata : FilePath → Except String (Option FileKind)
  read : FilePath → Except String (List UInt8)
  metadata_respelled : ∀ {a b : FilePath}, a.Respells b → metadata a = metadata b
  read_respelled : ∀ {a b : FilePath}, a.Respells b → read a = read b
  trails_of_regular : ∀ {path : FilePath}, metadata path = .ok (some .regular) → path.trails = false

namespace FileTree

def tryExists (tree : FileTree) (path : FilePath) : Except String Bool :=
  match tree.metadata path with
  | .ok (some _) => .ok true
  | .ok none => .ok false
  | .error err => .error err

def isDir (tree : FileTree) (path : FilePath) : Bool :=
  match tree.metadata path with
  | .ok (some .directory) => true
  | _ => false

def isFile (tree : FileTree) (path : FilePath) : Bool :=
  match tree.metadata path with
  | .ok (some .regular) => true
  | _ => false

variable {tree : FileTree} {a b : FilePath}

theorem isFile_iff : tree.isFile a = true ↔ tree.metadata a = .ok (some .regular) := by
  unfold isFile
  split
  · next h => exact ⟨fun _ => h, fun _ => rfl⟩
  · next h => exact ⟨nofun, fun hregular => absurd hregular h⟩

theorem isFile_respelled (h : a.Respells b) : tree.isFile a = tree.isFile b := by
  unfold isFile
  rw [tree.metadata_respelled h]

theorem trails_of_isFile (h : tree.isFile a = true) : a.trails = false :=
  tree.trails_of_regular (isFile_iff.1 h)

end FileTree

def fromUtf8 (bytes : List UInt8) : Option String := String.fromUTF8? ⟨bytes.toArray⟩

/-! ## Resolution -/

def sidecarInDirectory (tree : FileTree) (dir : FilePath) : Option FilePath :=
  let direct := dir.join "snn_model.json"
  if tree.isFile direct then some direct
  else
    let nested := dir.join "dataset/merged_v2/snn_model.json"
    if tree.isFile nested then some nested else none

def isMemDump (path : FilePath) : Bool :=
  path.extension.any fun ext => ext.toList.map Char.toLower == ['m', 'e', 'm']

def isHubConfig (path : FilePath) : Bool := path.fileName.any (· == "config.json")

def resolveFromHubConfig (tree : FileTree) (configPath : FilePath) : Except Failure FilePath :=
  let root := configPath.parent.getD configPath
  let nested := root.join "dataset/merged_v2/snn_model.json"
  if tree.isFile nested then .ok nested
  else
    let sibling := root.join "snn_model.json"
    if tree.isFile sibling then .ok sibling
    else
      bail
        s!"Hugging Face config.json at {configPath.display} has no sibling snn_model.json or dataset/merged_v2/snn_model.json"

def resolveSidecarPath (tree : FileTree) (modelPath : FilePath) : Except Failure FilePath :=
  match tree.tryExists modelPath with
  | .ok false =>
    bail s!"live mode cannot enter the tick loop: checkpoint not found at {modelPath.display}"
  | .error err =>
    bail
      s!"live mode cannot enter the tick loop: failed to query checkpoint {modelPath.display}: {err}"
  | .ok true =>
    if tree.isDir modelPath then
      match sidecarInDirectory tree modelPath with
      | some path => .ok path
      | none =>
        bail
          s!"checkpoint directory {modelPath.display} has no snn_model.json or dataset/merged_v2/snn_model.json"
    else if isMemDump modelPath then
      bail
        "live mode cannot load FPGA Q8.8 .mem dumps as a software checkpoint; point model_path at Distill sidecar snn_model.json (Hugging Face rmems/Spikenaut-SNN)"
    else if isHubConfig modelPath then resolveFromHubConfig tree modelPath
    else .ok modelPath

/-- The `config.json` beside the sidecar, else the one at the root of a hub checkout. -/
def findHubConfig (tree : FileTree) (sidecarPath : FilePath) : Option FilePath := do
  let dir ← sidecarPath.parent
  let sibling := dir.join "config.json"
  if tree.isFile sibling then
    return sibling
  if (← dir.fileName) = "merged_v2" then
    let root ← (← dir.parent).parent
    let hub := root.join "config.json"
    if tree.isFile hub then
      return hub
  none

/-! ## What is found is there -/

theorem FileTree.tryExists_of_isFile {tree : FileTree} {path : FilePath}
    (h : tree.isFile path = true) : tree.tryExists path = .ok true ∧ tree.isDir path = false := by
  unfold isFile at h
  unfold tryExists isDir
  split at h
  · next hm =>
    rw [hm]
    exact ⟨rfl, rfl⟩
  · cases h

theorem isFile_of_sidecarInDirectory {tree : FileTree} {dir path : FilePath}
    (h : sidecarInDirectory tree dir = some path) : tree.isFile path = true := by
  unfold sidecarInDirectory at h
  dsimp only at h
  split at h
  · next hdirect =>
    cases h
    exact hdirect
  · split at h
    · next hnested =>
      cases h
      exact hnested
    · cases h

theorem isFile_of_resolveFromHubConfig {tree : FileTree} {configPath path : FilePath}
    (h : resolveFromHubConfig tree configPath = .ok path) : tree.isFile path = true := by
  unfold resolveFromHubConfig at h
  dsimp only at h
  split at h
  · next hnested =>
    cases h
    exact hnested
  · split at h
    · next hsibling =>
      cases h
      exact hsibling
    · cases h

/-- What `model_path` resolves to exists and is no directory. -/
theorem exists_of_resolveSidecarPath {tree : FileTree} {modelPath path : FilePath}
    (h : resolveSidecarPath tree modelPath = .ok path) :
    tree.tryExists path = .ok true ∧ tree.isDir path = false := by
  unfold resolveSidecarPath at h
  split at h
  · cases h
  · cases h
  · next hexists =>
    by_cases hdir : tree.isDir modelPath = true
    · rw [if_pos hdir] at h
      split at h
      · next found hfound =>
        cases h
        exact FileTree.tryExists_of_isFile (isFile_of_sidecarInDirectory hfound)
      · cases h
    · rw [if_neg hdir] at h
      split at h
      · cases h
      · split at h
        · exact FileTree.tryExists_of_isFile (isFile_of_resolveFromHubConfig h)
        · cases h
          exact ⟨hexists, Bool.eq_false_iff.2 hdir⟩

end Brainstem.Checkpoint
