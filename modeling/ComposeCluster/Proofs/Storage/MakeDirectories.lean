import ComposeCluster.Proofs.Compose.SubPath

/-!
# Making directories

What `mkdir` does to the directories of a file system when it is called with a mode and told to make
all directories that lead to those it names (`Directories.run?`). A directory that exists keeps its
mode, and one that is made on the way to another gets the usual mode. So the order of the arguments
matters: each directory has the given mode in the end if it did not exist before and no earlier
argument leads through it (`Directories.given_of_foldl_make`).
-/

set_option autoImplicit false

namespace ComposeCluster

/-- The mode of a directory: a given one, or the one that directories on the way to another get. -/
inductive DirectoryMode where
  | usual
  | given (mode : String)
  deriving DecidableEq

/-- The modes of the directories that exist, by the names that lead to them. -/
def Directories : Type := List String → Option DirectoryMode

namespace Directories

/-- Makes a directory with a mode, and those that lead to it; what exists stays as it is. -/
def make (mode : String) (directories : Directories) (way : List String) : Directories :=
  fun other => (directories other).or <|
    if other = way then some (.given mode) else if other <+: way then some .usual else none

/-- The names in an absolute path that does not lead upward. -/
def wayOf? (path : String) : Option (List String) :=
  if Text.startsWith "/" path && !(pathParts path).contains ".." then
    some (Compose.SubPath.steps path)
  else none

/-- What is there after a command that makes directories, by absolute paths that do not lead upward,
with a mode and with all directories that lead to them. -/
def run? (directories : Directories) : List String → Option Directories
  | "mkdir" :: "-m" :: mode :: "-p" :: paths =>
    (paths.mapM wayOf?).map fun ways => ways.foldl (make mode) directories
  | _ => none

/-- The mode of the directory at the end of a path, if there is one. -/
def modeAt? (directories : Directories) (path : String) : Option DirectoryMode :=
  directories (Compose.SubPath.steps path)

/-- Nothing is in the directory at the end of a path. -/
def NothingIn (directories : Directories) (path : String) : Prop :=
  ∀ name rest, directories (Compose.SubPath.steps path ++ name :: rest) = none

variable {directories : Directories} {mode : String} {way other : List String}
  {ways : List (List String)}

/-- A command with a path for each item makes the directories that the paths lead to, one after
another. -/
theorem run?_map {α : Type} {items : List α} {path : α → String} {wayAt : α → List String}
    (directories : Directories) (mode : String)
    (h : ∀ item ∈ items, wayOf? (path item) = some (wayAt item)) :
    directories.run? (["mkdir", "-m", mode, "-p"] ++ items.map path) =
      some ((items.map wayAt).foldl (make mode) directories) := by
  have hways : (items.map path).mapM wayOf? = some (items.map wayAt) := by
    induction items with
    | nil => rfl
    | cons item rest ih =>
      have hrest := ih fun later hlater => h later (List.mem_cons_of_mem item hlater)
      rw [List.map_cons, List.mapM_cons, h item List.mem_cons_self, hrest]
      rfl
  exact congrArg (Option.map _) hways

/-- A directory that was not there gets the given mode. -/
theorem make_self (h : directories way = none) :
    directories.make mode way way = some (.given mode) := by
  rw [make, h, Option.none_or, if_pos rfl]

/-- A directory that does not lead to the one that is made stays as it is. -/
theorem make_apart (h : ¬ other <+: way) :
    directories.make mode way other = directories other := by
  have hne : other ≠ way := fun heq => h (heq ▸ List.prefix_rfl)
  rw [make, if_neg hne, if_neg h, Option.or_none]

/-- A directory that is there keeps its mode. -/
theorem foldl_make_of_eq_some {found : DirectoryMode} (h : directories way = some found) :
    ways.foldl (make mode) directories way = some found := by
  induction ways generalizing directories with
  | nil => exact h
  | cons first rest ih =>
    apply ih
    rw [make, h, Option.some_or]

/-- Directories that do not exist get the given mode if none leads to an earlier one. -/
theorem given_of_foldl_make (hnew : ∀ way ∈ ways, directories way = none)
    (hways : ways.Pairwise fun earlier later => ¬ later <+: earlier) (h : way ∈ ways) :
    ways.foldl (make mode) directories way = some (.given mode) := by
  -- An argument leaves the later ones as they are, so these are still new when their turn comes.
  induction ways generalizing directories with
  | nil => cases h
  | cons first rest ih =>
    obtain ⟨hfirst, hrest⟩ := List.pairwise_cons.1 hways
    rcases List.mem_cons.1 h with rfl | hmem
    · rw [List.foldl_cons]
      exact foldl_make_of_eq_some (make_self (hnew way List.mem_cons_self))
    · apply ih _ hrest hmem
      intro later hlater
      rw [make_apart (hfirst later hlater)]
      exact hnew later (List.mem_cons_of_mem first hlater)

end Directories

end ComposeCluster
