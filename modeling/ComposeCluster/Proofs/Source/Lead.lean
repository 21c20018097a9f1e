import ComposeCluster.Source.Tree

/-!
# Where paths lead

A path leads from a directory to what is at its end. Links on the way are followed wherever on the
disk they lead, but only so many of them (`SourceTree.Leads`). The question whether a path leads to
something other than a directory is the question whether what it leads to is a file, or anything
else that is neither a directory nor a link (`SourceTree.leadsToFile_iff`).
-/

set_option autoImplicit false

namespace ComposeCluster

/-- The entry is a file or something else from which no path goes on. -/
def SourceEntry.IsLeaf (entry : SourceEntry) : Prop :=
  entry ≠ .directory ∧ ∀ target, entry ≠ .link target

namespace SourceTree

/-- The part is the name of an entry. -/
def IsName (part : String) : Prop := ¬(part = "" ∨ part = ".") ∧ part ≠ ".."

/-- The parts of a path lead from a directory to an entry over at most so many links; `way` leads
from the root to the directory. -/
inductive Leads (tree : SourceTree) : Nat → List String → List String → SourceEntry → Prop where
  | here {links : Nat} {way : List String} : tree.Leads links way [] .directory
  | stay {links : Nat} {way rest : List String} {part : String} {entry : SourceEntry}
      (hpart : part = "" ∨ part = ".") (hrest : tree.Leads links way rest entry) :
    tree.Leads links way (part :: rest) entry
  | up {links : Nat} {way rest : List String} {entry : SourceEntry}
      (hrest : tree.Leads links way.dropLast rest entry) :
    tree.Leads links way (".." :: rest) entry
  | enter {links : Nat} {way rest : List String} {part : String} {entry : SourceEntry}
      (hpart : IsName part) (hchild : tree.childAt way part = .ok .directory)
      (hrest : tree.Leads links (way ++ [part]) rest entry) :
    tree.Leads links way (part :: rest) entry
  | leaf {links : Nat} {way : List String} {part : String} {entry : SourceEntry}
      (hpart : IsName part) (hchild : tree.childAt way part = .ok entry)
      (hleaf : entry.IsLeaf) :
    tree.Leads links way [part] entry
  | followAbsolute {links : Nat} {way rest : List String} {part target : String}
      {entry : SourceEntry}
      (hpart : IsName part) (hchild : tree.childAt way part = .ok (.link target))
      (habsolute : ['/'] <+: target.toList)
      (hrest : tree.Leads links [] (pathParts target ++ rest) entry) :
    tree.Leads (links + 1) way (part :: rest) entry
  | followRelative {links : Nat} {way rest : List String} {part target : String}
      {entry : SourceEntry}
      (hpart : IsName part) (hchild : tree.childAt way part = .ok (.link target))
      (hrelative : ¬['/'] <+: target.toList)
      (hrest : tree.Leads links way (pathParts target ++ rest) entry) :
    tree.Leads (links + 1) way (part :: rest) entry

variable {tree : SourceTree} {links : Nat} {way rest parts : List String} {path part : String}
  {entry : SourceEntry}

/-- A text starts with a slash exactly if its first character is one. -/
theorem startsWith_slash_iff {text : String} :
    Text.startsWith "/" text = true ↔ ['/'] <+: text.toList := by
  have hslash : "/".toList = ['/'] := by decide
  rw [Text.startsWith, hslash, List.isPrefixOf_iff_prefix]

/-- What one part of a path decides. -/
theorem leadsToFileOver_cons :
    tree.leadsToFileOver links way (part :: rest) =
      if part = "" ∨ part = "." then tree.leadsToFileOver links way rest
      else if part = ".." then tree.leadsToFileOver links way.dropLast rest
      else
        match tree.childAt way part with
        | .error _ => false
        | .ok .directory => tree.leadsToFileOver links (way ++ [part]) rest
        | .ok (.file _) | .ok (.special _) | .ok (.unreadable _) => rest.isEmpty
        | .ok (.link target) =>
          match links with
          | 0 => false
          | links + 1 =>
            tree.leadsToFileOver links (if Text.startsWith "/" target then [] else way)
              (pathParts target ++ rest) := by
  cases links <;> rfl

/-- A path that leads to a leaf is found to lead to something other than a directory. -/
theorem leadsToFileOver_of_leads (hleaf : entry.IsLeaf) (h : tree.Leads links way parts entry) :
    tree.leadsToFileOver links way parts = true := by
  induction h with
  | here => exact absurd rfl hleaf.1
  | stay hpart _ ih =>
    rw [leadsToFileOver_cons, if_pos hpart]
    exact ih hleaf
  | up _ ih =>
    rw [leadsToFileOver_cons, if_neg (by decide), if_pos rfl]
    exact ih hleaf
  | enter hpart hchild _ ih =>
    rw [leadsToFileOver_cons, if_neg hpart.1, if_neg hpart.2, hchild]
    exact ih hleaf
  | @leaf _ _ _ entry hpart hchild _ =>
    rw [leadsToFileOver_cons, if_neg hpart.1, if_neg hpart.2, hchild]
    cases entry with
    | directory => exact absurd rfl hleaf.1
    | link target => exact absurd rfl (hleaf.2 target)
    | file | special | unreadable => rfl
  | followAbsolute hpart hchild habsolute _ ih =>
    rw [leadsToFileOver_cons, if_neg hpart.1, if_neg hpart.2, hchild]
    simp only [startsWith_slash_iff.2 habsolute, if_true]
    exact ih hleaf
  | followRelative hpart hchild hrelative _ ih =>
    rw [leadsToFileOver_cons, if_neg hpart.1, if_neg hpart.2, hchild]
    simp only [if_neg (mt startsWith_slash_iff.1 hrelative)]
    exact ih hleaf

/-- One part after the other; behind a link there are fewer links left to follow. -/
theorem exists_leads_of_fewer
    (hfewer : ∀ fewer, links = fewer + 1 → ∀ way parts,
      tree.leadsToFileOver fewer way parts = true →
        ∃ entry : SourceEntry, entry.IsLeaf ∧ tree.Leads fewer way parts entry)
    (h : tree.leadsToFileOver links way parts = true) :
    ∃ entry : SourceEntry, entry.IsLeaf ∧ tree.Leads links way parts entry := by
  -- the parts for as many links; a link spends one, and its way is given by `hfewer`
  induction parts generalizing way with
  | nil => cases links <;> cases h
  | cons part rest ih =>
    rw [leadsToFileOver_cons] at h
    by_cases hstay : part = "" ∨ part = "."
    · rw [if_pos hstay] at h
      obtain ⟨entry, hleaf, hrest⟩ := ih h
      exact ⟨entry, hleaf, .stay hstay hrest⟩
    rw [if_neg hstay] at h
    by_cases hup : part = ".."
    · subst hup
      rw [if_pos rfl] at h
      obtain ⟨entry, hleaf, hrest⟩ := ih h
      exact ⟨entry, hleaf, .up hrest⟩
    rw [if_neg hup] at h
    cases hchild : tree.childAt way part with
    | error error =>
      rw [hchild] at h
      cases h
    | ok entry =>
      rw [hchild] at h
      cases entry with
      | directory =>
        obtain ⟨entry, hleaf, hrest⟩ := ih h
        exact ⟨entry, hleaf, .enter ⟨hstay, hup⟩ hchild hrest⟩
      | file | special | unreadable =>
        obtain rfl := List.isEmpty_iff.1 h
        refine ⟨_, ?_, .leaf ⟨hstay, hup⟩ hchild ?_⟩
        all_goals exact ⟨nofun, nofun⟩
      | link target =>
        cases links with
        | zero => cases h
        | succ fewer =>
          obtain ⟨entry, hleaf, hrest⟩ := hfewer fewer rfl _ _ h
          by_cases habsolute : Text.startsWith "/" target = true
          · rw [if_pos habsolute] at hrest
            exact ⟨entry, hleaf, .followAbsolute ⟨hstay, hup⟩ hchild
              (startsWith_slash_iff.1 habsolute) hrest⟩
          · rw [if_neg habsolute] at hrest
            exact ⟨entry, hleaf, .followRelative ⟨hstay, hup⟩ hchild
              (mt startsWith_slash_iff.2 habsolute) hrest⟩

/-- What is found to lead to something other than a directory leads to a leaf. -/
theorem exists_leads_of_leadsToFileOver :
    ∀ way parts, tree.leadsToFileOver links way parts = true →
      ∃ entry : SourceEntry, entry.IsLeaf ∧ tree.Leads links way parts entry := by
  induction links with
  | zero =>
    intro way parts h
    exact exists_leads_of_fewer (fun fewer hzero => by cases hzero) h
  | succ links ih =>
    intro way parts h
    refine exists_leads_of_fewer (fun fewer hfewer => ?_) h
    obtain rfl : links = fewer := Nat.succ.inj hfewer
    exact ih

/-- A path leads to something other than a directory exactly if it leads to a leaf. -/
theorem leadsToFile_iff :
    tree.leadsToFile path = true ↔
      ∃ entry : SourceEntry, entry.IsLeaf ∧
        tree.Leads maxLinks tree.base (pathParts path) entry :=
  ⟨exists_leads_of_leadsToFileOver _ _, fun ⟨_, hleaf, h⟩ => leadsToFileOver_of_leads hleaf h⟩

example :
    let tree : SourceTree :=
      ⟨["srv"], [(["srv", "hosts"], .link "/etc/hosts"), (["etc"], .directory),
        (["etc", "hosts"], .file [])]⟩
    tree.leadsToFile "hosts" = true ∧ tree.leadsToFile "../etc/hosts" = true ∧
      tree.leadsToFile "hosts/.." = false := by
  decide +kernel

end SourceTree

end ComposeCluster
