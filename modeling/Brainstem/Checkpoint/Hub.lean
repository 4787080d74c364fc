import Brainstem.Checkpoint.Acceptance

/-!
# A hub checkout, named by its directory or by its `config.json`

However the two names are spelled, both lead to a sidecar or neither does, and to the same one
unless both sidecars are there; then each goes to its own:

    R              restores from   R/snn_model.json
    R/config.json  restores from   R/dataset/merged_v2/snn_model.json

What is restored agrees with the `config.json` beside it, or with `R/config.json` if there is
none   (hub_by_directory_or_config).
-/

namespace Brainstem.Checkpoint

open Brainstem.Daemon

/-! ## The places in a checkout -/

section Layout

variable (dir : FilePath)

/-- `snn_model.json` in the directory. -/
def directSidecar : FilePath := dir.join "snn_model.json"

def nestedSidecar : FilePath := dir.join "dataset/merged_v2/snn_model.json"

def rootConfig : FilePath := dir.join "config.json"

def mergedConfig : FilePath := dir.join "dataset/merged_v2/config.json"

theorem directSidecar_components :
    (directSidecar dir).components = dir.components ++ [.normal "snn_model.json"] :=
  FilePath.components_join (by decide)

theorem nestedSidecar_components : (nestedSidecar dir).components =
    dir.components ++ [.normal "dataset"] ++ [.normal "merged_v2"] ++
      [.normal "snn_model.json"] := by
  rw [List.append_assoc, List.append_assoc]
  exact FilePath.components_join (by decide)

theorem rootConfig_components :
    (rootConfig dir).components = dir.components ++ [.normal "config.json"] :=
  FilePath.components_join (by decide)

variable {dir} {dir' : FilePath}

theorem directSidecar_respelled (h : dir.components = dir'.components) :
    (directSidecar dir).Respells (directSidecar dir') :=
  .join h (by decide) (by decide)

theorem nestedSidecar_respelled (h : dir.components = dir'.components) :
    (nestedSidecar dir).Respells (nestedSidecar dir') :=
  .join h (by decide) (by decide)

theorem rootConfig_respelled (h : dir.components = dir'.components) :
    (rootConfig dir).Respells (rootConfig dir') :=
  .join h (by decide) (by decide)

end Layout

/-! ## The two resolutions -/

section Resolve

variable {tree : FileTree} {dir : FilePath}

/-- A directory gives the sidecar in it before the nested one. -/
theorem resolveSidecarPath_directory (hdir : tree.isDir dir = true) :
    (resolveSidecarPath tree dir).toOption =
      if tree.isFile (directSidecar dir) then some (directSidecar dir)
      else if tree.isFile (nestedSidecar dir) then some (nestedSidecar dir) else none := by
  have hexists : tree.tryExists dir = .ok true := by
    unfold FileTree.isDir at hdir
    unfold FileTree.tryExists
    split at hdir
    · next hm => rw [hm]
    · cases hdir
  unfold resolveSidecarPath
  rw [hexists]
  dsimp only
  rw [if_pos hdir]
  unfold sidecarInDirectory directSidecar nestedSidecar
  dsimp only
  split
  · next path hpath =>
    rw [hpath]
    rfl
  · next hpath =>
    rw [hpath]
    rfl

/-- Its `config.json` gives the nested sidecar before that one, below the directory as the file
spells it. -/
theorem resolveSidecarPath_config {file : FilePath}
    (hname : file.components = (rootConfig dir).components) (hfile : tree.isFile file = true) :
    ∃ dir', file.parent = some dir' ∧ dir'.components = dir.components ∧
      (resolveSidecarPath tree file).toOption =
        if tree.isFile (nestedSidecar dir) then some (nestedSidecar dir')
        else if tree.isFile (directSidecar dir) then some (directSidecar dir') else none := by
  rw [rootConfig_components] at hname
  obtain ⟨dir', hparent, hdir'⟩ := FilePath.components_parent hname
  have hfileName := FilePath.fileName_of_components hname
  refine ⟨dir', hparent, hdir', ?_⟩
  rw [← FileTree.isFile_respelled (nestedSidecar_respelled hdir'),
    ← FileTree.isFile_respelled (directSidecar_respelled hdir')]
  obtain ⟨hexists, hnodir⟩ := FileTree.tryExists_of_isFile hfile
  have hmem : isMemDump file = false := by
    unfold isMemDump FilePath.extension
    rw [hfileName]
    decide
  have hhub : isHubConfig file = true := by
    unfold isHubConfig
    rw [hfileName]
    rfl
  unfold resolveSidecarPath
  rw [hexists]
  dsimp only
  rw [hnodir, hmem, hhub, if_neg Bool.false_ne_true, if_neg Bool.false_ne_true, if_pos rfl]
  unfold resolveFromHubConfig directSidecar nestedSidecar
  rw [hparent, Option.getD_some]
  dsimp only
  split
  · rfl
  · split
    · rfl
    · rfl

/-! ## The config that is enforced -/

theorem findHubConfig_direct {path : FilePath}
    (hpath : path.components = (directSidecar dir).components)
    (hconfig : tree.isFile (rootConfig dir) = true) :
    ∃ hubPath, findHubConfig tree path = some hubPath ∧ hubPath.Respells (rootConfig dir) := by
  rw [directSidecar_components] at hpath
  obtain ⟨dir', hparent, hdir'⟩ := FilePath.components_parent hpath
  have hrespells := rootConfig_respelled hdir'
  refine ⟨rootConfig dir', ?_, hrespells⟩
  unfold findHubConfig
  rw [hparent]
  show (if tree.isFile (rootConfig dir') then _ else _) = _
  rw [if_pos ((FileTree.isFile_respelled hrespells).trans hconfig)]
  rfl

/-- The nested sidecar has the `config.json` beside it before the one at the root. -/
theorem findHubConfig_nested {path : FilePath}
    (hpath : path.components = (nestedSidecar dir).components)
    (hconfig : tree.isFile (rootConfig dir) = true) :
    ∃ hubPath, findHubConfig tree path = some hubPath ∧
      hubPath.Respells
        (if tree.isFile (mergedConfig dir) then mergedConfig dir else rootConfig dir) := by
  rw [nestedSidecar_components] at hpath
  obtain ⟨merged, hparent, hmerged⟩ := FilePath.components_parent hpath
  have hname := FilePath.fileName_of_components hmerged
  obtain ⟨dataset, hmergedParent, hdataset⟩ := FilePath.components_parent hmerged
  obtain ⟨dir', hdatasetParent, hdir'⟩ := FilePath.components_parent hdataset
  have hsibling : (merged.join "config.json").Respells (mergedConfig dir) := by
    have hcomponents : (mergedConfig dir).components =
        dir.components ++ [.normal "dataset"] ++ [.normal "merged_v2"] ++
          [.normal "config.json"] := by
      rw [List.append_assoc, List.append_assoc]
      exact FilePath.components_join (by decide)
    refine ⟨?_, (FilePath.trails_join (by decide)).trans (by decide),
      (FilePath.trails_join (by decide)).trans (by decide)⟩
    rw [hcomponents, ← hmerged]
    exact FilePath.components_join (by decide)
  have hroot := rootConfig_respelled hdir'
  unfold findHubConfig
  rw [hparent, Option.bind_eq_bind, Option.bind_some]
  dsimp only
  rw [FileTree.isFile_respelled hsibling]
  split
  · exact ⟨_, rfl, hsibling⟩
  · refine ⟨rootConfig dir', ?_, hroot⟩
    rw [hname, hmergedParent]
    show (do
      let root ← dataset.parent
      if tree.isFile (rootConfig root) then some (rootConfig root) else none) = _
    rw [hdatasetParent]
    show (if tree.isFile (rootConfig dir') then some (rootConfig dir') else none) = _
    rw [if_pos ((FileTree.isFile_respelled hroot).trans hconfig)]

end Resolve

/-! ## Loading -/

section Load

variable {Network Entropy : Type} (nm : Neuromod Network Entropy) (cells : NeuromodCells Network)
  (libs : Libraries) (tree : FileTree) (config : DaemonConfig)

/-- Live loading with another `model_path`. -/
def loadAt (modelPath : String) : Except Failure (Network × ModelProvenance) :=
  loadLiveCheckpoint nm cells libs tree { config with modelPath := modelPath }

theorem toOption_loadAt (modelPath : String) :
    (loadAt nm cells libs tree config modelPath).toOption =
      (resolveSidecarPath tree (.parse modelPath)).toOption.bind fun sidecarPath =>
        (loadFrom nm cells libs tree config sidecarPath).toOption := by
  unfold loadAt
  rw [loadLiveCheckpoint_eq]
  cases hpath : resolveSidecarPath tree (.parse modelPath) with
  | error e => rfl
  | ok sidecarPath => rfl

/-- The pair is what the sidecar holds, under some spelling of its path, and agrees with the
`config.json`. -/
def RestoredFrom (sidecarPath hubPath : FilePath) (pair : Network × ModelProvenance) : Prop :=
  ∃ path bytes document network,
    path.Respells sidecarPath ∧
    parseSidecarFile libs tree sidecarPath = .ok (bytes, document) ∧
    restoreSpikingNetwork nm cells config document = .ok network ∧
    pair = (network, provenanceOf libs document path bytes) ∧
    ∃ hub, readHubConfig libs tree hubPath = .ok hub ∧ hub.Agrees document

/-- The same network with the same provenance, but for the spelling of the sidecar's path. -/
def SameRestore (a b : Network × ModelProvenance) : Prop :=
  ∃ network document bytes, ∃ path path' : FilePath, path.components = path'.components ∧
    a = (network, provenanceOf libs document path bytes) ∧
    b = (network, provenanceOf libs document path' bytes)

section Respelled

variable {libs tree config} {a b path sidecarPath hubPath : FilePath}

theorem parseSidecarFile_respelled (h : a.Respells b) {bytes : List UInt8}
    {document : SidecarDocument} : parseSidecarFile libs tree a = .ok (bytes, document) ↔
      parseSidecarFile libs tree b = .ok (bytes, document) := by
  unfold parseSidecarFile
  rw [tree.read_respelled h]
  cases tree.read b with
  | error e => exact ⟨nofun, nofun⟩
  | ok found =>
    dsimp only
    cases fromUtf8 found with
    | none => exact ⟨nofun, nofun⟩
    | some text =>
      dsimp only
      cases libs.parseSidecar text with
      | error e => exact ⟨nofun, nofun⟩
      | ok document => exact Iff.rfl

theorem readHubConfig_respelled (h : a.Respells b) {hub : HubConfig} :
    readHubConfig libs tree a = .ok hub ↔ readHubConfig libs tree b = .ok hub := by
  unfold readHubConfig
  rw [tree.read_respelled h]
  cases tree.read b with
  | error e => exact ⟨nofun, nofun⟩
  | ok found =>
    dsimp only
    cases fromUtf8 found with
    | none => exact ⟨nofun, nofun⟩
    | some text =>
      dsimp only
      cases libs.parseHub text with
      | error e => exact ⟨nofun, nofun⟩
      | ok hub => exact Iff.rfl

variable {nm cells}

/-- Loading asks the sidecar and its config for their contents, and the path for its text. -/
theorem loadFrom_respelled (hpath : path.Respells sidecarPath)
    (hhub : ∃ found, findHubConfig tree path = some found ∧ found.Respells hubPath)
    {pair : Network × ModelProvenance} :
    loadFrom nm cells libs tree config path = .ok pair ↔
      ∃ bytes document network,
        parseSidecarFile libs tree sidecarPath = .ok (bytes, document) ∧
        (ValidSidecar config document ∧
          ∃ hub, readHubConfig libs tree hubPath = .ok hub ∧ hub.Agrees document) ∧
        restoreSpikingNetwork nm cells config document = .ok network ∧
        pair = (network, provenanceOf libs document path bytes) := by
  obtain ⟨found, hfound, hrespells⟩ := hhub
  have hagrees {document : SidecarDocument} : HubAgrees libs tree path document ↔
      ∃ hub, readHubConfig libs tree hubPath = .ok hub ∧ hub.Agrees document := by
    unfold HubAgrees
    rw [hfound]
    simp only [Option.some.injEq, forall_eq', readHubConfig_respelled hrespells]
  rw [loadFrom_eq_ok]
  simp only [parseSidecarFile_respelled hpath, validateLiveDocument_iff, hagrees]

theorem restoredFrom_of_loadFrom (hpath : path.Respells sidecarPath)
    (hhub : ∃ found, findHubConfig tree path = some found ∧ found.Respells hubPath)
    {pair : Network × ModelProvenance} (h : loadFrom nm cells libs tree config path = .ok pair) :
    RestoredFrom nm cells libs tree config sidecarPath hubPath pair := by
  obtain ⟨bytes, document, network, hparse, ⟨-, hub⟩, hnetwork, hpair⟩ :=
    (loadFrom_respelled hpath hhub).1 h
  exact ⟨path, bytes, document, network, hpath, hparse, hnetwork, hpair, hub⟩

/-- Two spellings of the sidecar restore the same. -/
theorem sameRestore_of_respells (ha : a.Respells sidecarPath) (hb : b.Respells sidecarPath)
    (hhuba : ∃ found, findHubConfig tree a = some found ∧ found.Respells hubPath)
    (hhubb : ∃ found, findHubConfig tree b = some found ∧ found.Respells hubPath) :
    Option.Rel (SameRestore libs) (loadFrom nm cells libs tree config a).toOption
      (loadFrom nm cells libs tree config b).toOption := by
  cases hloada : loadFrom nm cells libs tree config a with
  | error e =>
    cases hloadb : loadFrom nm cells libs tree config b with
    | error e' => exact .none
    | ok pair =>
      obtain ⟨bytes, document, network, hparse, hvalid, hnetwork, -⟩ :=
        (loadFrom_respelled hb hhubb).1 hloadb
      have := (loadFrom_respelled ha hhuba).2
        ⟨bytes, document, network, hparse, hvalid, hnetwork, rfl⟩
      rw [hloada] at this
      cases this
  | ok pair =>
    obtain ⟨bytes, document, network, hparse, hvalid, hnetwork, hpair⟩ :=
      (loadFrom_respelled ha hhuba).1 hloada
    have hloadb := (loadFrom_respelled hb hhubb).2
      ⟨bytes, document, network, hparse, hvalid, hnetwork, rfl⟩
    rw [hloadb]
    exact .some ⟨network, document, bytes, a, b, ha.components.trans hb.components.symm, hpair, rfl⟩

end Respelled

/-- What the two names of the checkout in `root` have in common. -/
structure OneCheckout (root file : String) : Prop where
  resolves : (∃ path, resolveSidecarPath tree (.parse root) = .ok path) ↔
    ∃ path, resolveSidecarPath tree (.parse file) = .ok path
  same : ¬(tree.isFile (directSidecar (.parse root)) = true ∧
      tree.isFile (nestedSidecar (.parse root)) = true) →
    Option.Rel (SameRestore libs) (loadAt nm cells libs tree config root).toOption
      (loadAt nm cells libs tree config file).toOption
  /-- with no difference at all if the file is written below the directory -/
  exact : ¬(tree.isFile (directSidecar (.parse root)) = true ∧
      tree.isFile (nestedSidecar (.parse root)) = true) →
    file = root ++ "/config.json" → (FilePath.parse root).trails = false →
    (loadAt nm cells libs tree config root).toOption =
      (loadAt nm cells libs tree config file).toOption
  each : tree.isFile (directSidecar (.parse root)) = true →
    tree.isFile (nestedSidecar (.parse root)) = true →
    (loadAt nm cells libs tree config root).toOption =
        (loadFrom nm cells libs tree config (directSidecar (.parse root))).toOption ∧
      ∃ path : FilePath, path.Respells (nestedSidecar (.parse root)) ∧
        (loadAt nm cells libs tree config file).toOption =
          (loadFrom nm cells libs tree config path).toOption
  enforced : ∀ pair, loadAt nm cells libs tree config root = .ok pair ∨
      loadAt nm cells libs tree config file = .ok pair →
    RestoredFrom nm cells libs tree config (directSidecar (.parse root)) (rootConfig (.parse root))
      pair ∨
    RestoredFrom nm cells libs tree config (nestedSidecar (.parse root))
      (if tree.isFile (mergedConfig (.parse root)) then mergedConfig (.parse root)
        else rootConfig (.parse root)) pair

theorem toOption_eq_some_iff {α : Type} {x : Except Failure α} {a : α} :
    x.toOption = some a ↔ x = .ok a := by
  cases x with
  | error e => exact ⟨nofun, nofun⟩
  | ok b => exact ⟨fun h => congrArg _ (Option.some.inj h), fun h => by cases h; rfl⟩

variable {nm cells libs tree config} in
/-- What is loaded comes from one of the two files that the path may lead to. -/
theorem loadFrom_of_loadAt {modelPath : String} {first second : FilePath} {a b : Prop} [Decidable a]
    [Decidable b] {pair : Network × ModelProvenance}
    (hpath : (resolveSidecarPath tree (.parse modelPath)).toOption =
      if a then some first else if b then some second else none)
    (h : loadAt nm cells libs tree config modelPath = .ok pair) :
    loadFrom nm cells libs tree config first = .ok pair ∨
      loadFrom nm cells libs tree config second = .ok pair := by
  rw [← toOption_eq_some_iff, toOption_loadAt, hpath] at h
  split at h
  · exact .inl (toOption_eq_some_iff.1 h)
  · split at h
    · exact .inr (toOption_eq_some_iff.1 h)
    · cases h

/-- **A checkout has two names and one outcome, except where it has two sidecars.** -/
theorem hub_by_directory_or_config {root file : String}
    (hname : (FilePath.parse file).components = (rootConfig (.parse root)).components)
    (hdir : tree.isDir (.parse root) = true) (hfile : tree.isFile (.parse file) = true) :
    OneCheckout nm cells libs tree config root file := by
  obtain ⟨dir, hparent, hdir', hbyConfig⟩ := resolveSidecarPath_config hname hfile
  have hbyDirectory := resolveSidecarPath_directory hdir
  have hroot := toOption_loadAt nm cells libs tree config root
  have hat := toOption_loadAt nm cells libs tree config file
  rw [hbyDirectory] at hroot
  rw [hbyConfig] at hat
  have hconfig : tree.isFile (rootConfig (.parse root)) = true := by
    rw [← hfile]
    exact FileTree.isFile_respelled ⟨hname.symm, (rootConfig_respelled rfl).left,
      FileTree.trails_of_isFile hfile⟩
  -- each sidecar, under both spellings, with the config that it is held against
  have hdirect {d : FilePath} (h : d.components = (FilePath.parse root).components) :
      (directSidecar d).Respells (directSidecar (.parse root)) ∧
        ∃ found, findHubConfig tree (directSidecar d) = some found ∧
          found.Respells (rootConfig (.parse root)) :=
    ⟨directSidecar_respelled h, findHubConfig_direct (directSidecar_respelled h).components hconfig⟩
  have hnested {d : FilePath} (h : d.components = (FilePath.parse root).components) :
      (nestedSidecar d).Respells (nestedSidecar (.parse root)) ∧
        ∃ found, findHubConfig tree (nestedSidecar d) = some found ∧
          found.Respells (if tree.isFile (mergedConfig (.parse root)) then mergedConfig (.parse root)
            else rootConfig (.parse root)) :=
    ⟨nestedSidecar_respelled h, findHubConfig_nested (nestedSidecar_respelled h).components hconfig⟩
  have hsome (path : FilePath) : (∃ p, resolveSidecarPath tree path = .ok p) ↔
      (resolveSidecarPath tree path).toOption ≠ none := by
    cases resolveSidecarPath tree path with
    | error e => exact ⟨fun ⟨_, h⟩ => (nomatch h), fun h => absurd rfl h⟩
    | ok p => exact ⟨fun _ => nofun, fun _ => ⟨p, rfl⟩⟩
  constructor
  · rw [hsome, hsome, hbyDirectory, hbyConfig]
    split
    · next hdirect => split <;> simp
    · split <;> simp
  · intro hboth
    rw [hroot, hat]
    split
    · next isdirect =>
      split
      · next isnested => exact absurd ⟨isdirect, isnested⟩ hboth
      · exact sameRestore_of_respells (hdirect rfl).1 (hdirect hdir').1 (hdirect rfl).2
          (hdirect hdir').2
    · split
      · exact sameRestore_of_respells (hnested rfl).1 (hnested hdir').1 (hnested rfl).2
          (hnested hdir').2
      · exact .none
  · intro hboth hspelled htrails
    have hsame : dir = .parse root := by
      have habove : (FilePath.parse file).parent = some (.parse root) := by
        rw [hspelled]
        show FilePath.parent ⟨(root ++ "/config.json").toList⟩ = _
        rw [String.toList_append]
        exact FilePath.parent_append_sep htrails (by decide) rfl
      rw [habove] at hparent
      exact (Option.some.inj hparent).symm
    rw [hroot, hat, hsame]
    split
    · next isdirect =>
      split
      · next isnested => exact absurd ⟨isdirect, isnested⟩ hboth
      · rfl
    · rfl
  · intro isdirect isnested
    rw [hroot, hat, if_pos isdirect, if_pos isnested]
    exact ⟨rfl, nestedSidecar dir, (hnested hdir').1, rfl⟩
  · intro pair hpair
    have hfrom : ∃ d : FilePath, d.components = (FilePath.parse root).components ∧
        (loadFrom nm cells libs tree config (directSidecar d) = .ok pair ∨
          loadFrom nm cells libs tree config (nestedSidecar d) = .ok pair) := by
      rcases hpair with hpair | hpair
      · exact ⟨_, rfl, loadFrom_of_loadAt hbyDirectory hpair⟩
      · exact ⟨dir, hdir', (loadFrom_of_loadAt hbyConfig hpair).symm⟩
    obtain ⟨d, hd, hfrom | hfrom⟩ := hfrom
    · exact .inl (restoredFrom_of_loadFrom (hdirect hd).1 (hdirect hd).2 hfrom)
    · exact .inr (restoredFrom_of_loadFrom (hnested hd).1 (hnested hd).2 hfrom)

end Load

/-! ## A checkout with two sidecars and two configs -/

/-- A file of `hub` is sound if it holds the letter A. -/
def Libraries.letters : Libraries :=
  { Libraries.unused with
    parseSidecar := fun text => if text = "A" then .ok .halves else .error "expected value"
    parseHub := fun text => if text = "A" then .ok ⟨none, none, none⟩ else .error "expected value" }

def hubDir : FilePath := .parse "hub"

/-- The nested half of the checkout is sound, the other is not. -/
def FileTree.doubled : FileTree where
  metadata := fun path =>
    if path.components = hubDir.components then .ok (some .directory)
    else if path.trails = false ∧ path.components ∈ [(rootConfig hubDir).components,
        (directSidecar hubDir).components, (mergedConfig hubDir).components,
        (nestedSidecar hubDir).components] then .ok (some .regular)
    else .ok none
  read := fun path => .ok [if path.components.length = 4 then 65 else 66]
  metadata_respelled := fun h => by rw [h.components, h.left, h.right]
  read_respelled := fun h => by rw [h.components]
  trails_of_regular := by
    intro path h
    split at h
    · cases h
    · split at h
      · next hregular => exact hregular.1
      · cases h

section Doubled

open CellNetwork

theorem doubled_isDir : FileTree.doubled.isDir hubDir = true := by decide +kernel

theorem doubled_isFile : FileTree.doubled.isFile (rootConfig hubDir) = true ∧
    FileTree.doubled.isFile (mergedConfig hubDir) = true ∧
    FileTree.doubled.isFile (directSidecar hubDir) = true ∧
    FileTree.doubled.isFile (nestedSidecar hubDir) = true := by
  decide +kernel

/-- The checkout under two pairs of names. -/
theorem hub_by_directory_or_config_doubled :
    OneCheckout neuromod neuromodCells .letters .doubled .quiet "hub" ("hub" ++ "/config.json") ∧
      OneCheckout neuromod neuromodCells .letters .doubled .quiet "hub//." "hub/./config.json" := by
  refine ⟨hub_by_directory_or_config neuromod neuromodCells .letters .doubled .quiet ?_ ?_ ?_,
    hub_by_directory_or_config neuromod neuromodCells .letters .doubled .quiet ?_ ?_ ?_⟩
  all_goals decide +kernel

theorem loadFrom_nested : ∃ pair,
    loadFrom neuromod neuromodCells .letters .doubled .quiet (nestedSidecar hubDir) = .ok pair := by
  have hparse : parseSidecarFile .letters .doubled (nestedSidecar hubDir) = .ok ([65], .halves) := by
    rfl
  have hread : readHubConfig .letters .doubled (mergedConfig hubDir) = .ok ⟨none, none, none⟩ := by
    rfl
  obtain ⟨network, hnetwork, -⟩ := restoreSpikingNetwork_spec neuromodCells_lawful
    SidecarDocument.halves_valid.count
  have hfound := @findHubConfig_nested .doubled hubDir (nestedSidecar hubDir) rfl doubled_isFile.1
  rw [if_pos doubled_isFile.2.1] at hfound
  exact ⟨_, (loadFrom_respelled (nestedSidecar_respelled rfl) hfound).2 ⟨_, _, network, hparse,
    ⟨SidecarDocument.halves_valid, _, hread, nofun, nofun, nofun⟩, hnetwork, rfl⟩⟩

/-- Loading `hub` fails, loading `hub/config.json` restores, and `hub/config.json` itself does not
even parse. -/
theorem doubled_hub_disagrees :
    FileTree.doubled.isDir (.parse "hub") = true ∧
      FileTree.doubled.isFile (.parse ("hub" ++ "/config.json")) = true ∧
      (∀ pair, loadAt neuromod neuromodCells .letters .doubled .quiet "hub" ≠ .ok pair) ∧
      (∃ pair, loadAt neuromod neuromodCells .letters .doubled .quiet ("hub" ++ "/config.json") =
        .ok pair) ∧
      ∀ hub, readHubConfig .letters .doubled (.parse ("hub" ++ "/config.json")) ≠ .ok hub := by
  have hfile : FilePath.parse ("hub" ++ "/config.json") = rootConfig hubDir := by decide
  have hbyDirectory : (resolveSidecarPath .doubled (.parse "hub")).toOption =
      some (directSidecar hubDir) := by
    decide +kernel
  have hbyConfig : (resolveSidecarPath .doubled (rootConfig hubDir)).toOption =
      some (nestedSidecar hubDir) := by
    decide +kernel
  rw [hfile]
  refine ⟨doubled_isDir, doubled_isFile.1, ?_, ?_, ?_⟩
  · intro pair h
    rw [← toOption_eq_some_iff, toOption_loadAt, hbyDirectory, Option.bind_some,
      toOption_eq_some_iff] at h
    obtain ⟨bytes, document, _, hparse, -⟩ := loadFrom_eq_ok.1 h
    have hgarbage : parseSidecarFile .letters .doubled (directSidecar hubDir) =
        bail s!"failed to parse Spikenaut sidecar JSON from {(directSidecar hubDir).display}" := by
      rfl
    rw [hgarbage] at hparse
    cases hparse
  · obtain ⟨pair, hpair⟩ := loadFrom_nested
    refine ⟨pair, ?_⟩
    rw [← toOption_eq_some_iff, toOption_loadAt, hfile, hbyConfig, Option.bind_some,
      toOption_eq_some_iff]
    exact hpair
  · intro hub h
    have hgarbage : readHubConfig .letters .doubled (rootConfig hubDir) =
        bail s!"failed to parse Hugging Face config {(rootConfig hubDir).display}" := by
      rfl
    rw [hgarbage] at h
    cases h

end Doubled

end Brainstem.Checkpoint
