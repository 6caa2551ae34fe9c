import PatchTrail.Command.Basic

/-!
# Which files a request looks at

A request names manifests, and these name other files. `Request.paths` says which files a request
looks at, as far as this can be known from the disk it is given; with these files on the disk, it
says more. After `rounds` rounds there is nothing new.
-/

namespace PatchTrail.Command

namespace Reach

/-- The names of the files whose content a step copies. -/
def sources : Manifest.Step → List Text
  | .copyFile _ source => [source]
  | .sequence steps => sourcesOfAll steps
  | _ => []
where
  /-- The names of the files whose content steps copy. -/
  sourcesOfAll : List Manifest.Step → List Text
    | [] => []
    | s :: rest => sources s ++ sourcesOfAll rest

/-- The names of the files in the work tree that an instruction looks at. -/
def targets : Instruction → List Text
  | .writeFile path _ => [path]
  | .deleteFile path => [path]
  | .patchFiles paths _ => paths
  | .defineResource definition => [Resource.tablePath, definition.constantsPath]
  | .sequence instructions => targetsOfAll instructions
where
  /-- The names of the files in the work tree that instructions look at. -/
  targetsOfAll : List Instruction → List Text
    | [] => []
    | i :: rest => targets i ++ targetsOfAll rest

/-- The paths of the files that a manifest copies. -/
def copied (disk : Disk) (path : Text) : List Text :=
  match Manifest.load disk path with
  | .error _ => []
  | .ok m =>
    m.items.flatMap fun item =>
      (sources.sourcesOfAll item.steps).map (Path.join (Manifest.baseOf path))

/-- The paths of manifests and of the files that they copy. -/
def ofManifests (disk : Disk) (paths : List Text) : List Text :=
  paths ++ paths.flatMap (copied disk)

/-- The paths of the files in a directory that the patches of manifests look at. -/
def ofPatches (disk : Disk) (directory : Text) (paths : List Text) : List Text :=
  match Manifest.loadAll disk paths with
  | .error _ => []
  | .ok registry =>
    registry.patches.flatMap fun p =>
      (targets.targetsOfAll p.instructions).map (Path.below directory)

/-- How many rounds it takes until all files are known: the manifests, what they copy, and what
their patches look at. -/
def rounds : Nat := 3

end Reach

/-- The paths that a request looks at. -/
def Request.paths (disk : Disk) : Request → List Text
  | apply a =>
    a.directory :: a.diffPath?.toList ++ Reach.ofManifests disk a.manifests
      ++ Reach.ofPatches disk a.directory a.manifests
  | list l => Reach.ofManifests disk l.manifests

end PatchTrail.Command
