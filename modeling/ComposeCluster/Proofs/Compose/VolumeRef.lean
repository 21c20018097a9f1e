import ComposeCluster.Proofs.Compose.SubPath
import ComposeCluster.Proofs.Control
import ComposeCluster.Proofs.Source.Lead
import ComposeCluster.Proofs.Text.Cut

/-!
# What volumes of services name

The source of a volume names either a directory below the base (`ServiceVolume.IsBelow`), which
stands for one of the first volume of the app, or a volume of the app by its name, or a directory of
that (`ServiceVolume.IsNamed`). A service volume is resolved exactly if its source names something
in one of these ways, and then it is what the source designates (`Mount.resolve_eq_ok`).
-/

set_option autoImplicit false

namespace ComposeCluster.Compose

/-- A text is a name with nothing after it, or a name, a slash and the rest. -/
structure SplitsAtSlash (text name rest : String) : Prop where
  noSlash : '/' ∉ name.toList
  text_eq : text = name ∧ rest = "" ∨ text = name ++ "/" ++ rest

namespace ServiceVolume

/-- The source names a directory below the base, which may not exist yet, and there is a volume to
hold it. -/
structure IsBelow (spec : ServiceVolume) (volumes : List AppVolume) (tree : SourceTree) : Prop where
  kind_eq : spec.kind = .bind
  relative : ¬ ['/'] <+: spec.source.toList ∧ ¬ ['~'] <+: spec.source.toList
  noFile : ¬ ∃ entry : SourceEntry, entry.IsLeaf ∧
    tree.Leads maxLinks tree.base (pathParts spec.source) entry
  volumes_ne_nil : volumes ≠ []
  descends : SubPath.Descends spec.source

/-- The source names a volume of the app, or a directory of it. -/
structure IsNamed (spec : ServiceVolume) (volumes : List AppVolume) (name rest : String) :
    Prop where
  kind_eq : spec.kind = .named
  splits : SplitsAtSlash spec.source name rest
  known : name ∈ volumes.map (·.name)
  descends : rest = "" ∨ SubPath.Descends rest

/-- Source and target are there, and the source is not cut at a colon. -/
structure IsWritten (spec : ServiceVolume) : Prop where
  source_ne : spec.source ≠ ""
  target_ne : spec.target ≠ ""
  noColon : ':' ∉ spec.source.toList

/-- The part of a volume of the app that a service volume designates. -/
inductive Designates (spec : ServiceVolume) (volumes : List AppVolume) (tree : SourceTree) :
    Mount → Prop where
  | below (first : AppVolume) (hfirst : volumes.head? = some first)
      (h : spec.IsBelow volumes tree) :
    spec.Designates volumes tree
      ⟨first.name, some (Text.join "/" (SubPath.steps spec.source)), spec.target⟩
  | named (name rest : String) (h : spec.IsNamed volumes name rest) :
    spec.Designates volumes tree
      ⟨name, if rest = "" then none else some (Text.join "/" (SubPath.steps rest)), spec.target⟩

/-- What a mount has of the service volume that it is for: a directory of the first volume of the
app, or the volume that the source names, all of it if nothing follows the name. -/
structure IsShownBy (spec : ServiceVolume) (volumes : List AppVolume) (mount : Mount) : Prop where
  target_eq : mount.target = spec.target
  below : spec.kind = .bind → volumes.head?.map (·.name) = some mount.volume ∧
    mount.subPath? = some (Text.join "/" (SubPath.steps spec.source))
  named : spec.kind = .named → ∀ name rest, SplitsAtSlash spec.source name rest →
    mount.volume = name ∧
      mount.subPath? = if rest = "" then none else some (Text.join "/" (SubPath.steps rest))
  whole_iff : mount.subPath? = none ↔
    spec.kind = .named ∧ ∃ name, SplitsAtSlash spec.source name ""
  nonempty : mount.subPath? ≠ some ""

end ServiceVolume

/-! ## Cutting at the first slash -/

/-- Cutting a text at its first slash finds the name and the rest. -/
theorem SplitsAtSlash.getD_splitOnce {text name rest : String} (h : SplitsAtSlash text name rest) :
    (Text.splitOnce '/' text).getD (text, "") = (name, rest) := by
  have hsingleton : String.singleton '/' = "/" := by decide
  obtain ⟨rfl, rfl⟩ | rfl := h.text_eq
  · rw [Text.splitOnce_of_notMem h.noSlash, Option.getD_none]
  · rw [← hsingleton, Text.splitOnce_append h.noSlash, Option.getD_some]

/-- Each text is a name with or without a rest. -/
theorem exists_splitsAtSlash (text : String) : ∃ name rest, SplitsAtSlash text name rest := by
  have hsingleton : String.singleton '/' = "/" := by decide
  obtain ⟨hnone, -⟩ | ⟨name, rest, hname, htext, -⟩ := Text.splitOnce_cases '/' text
  · exact ⟨text, "", hnone, .inl ⟨rfl, rfl⟩⟩
  · rw [hsingleton] at htext
    exact ⟨name, rest, hname, .inr htext⟩

/-- A text is cut at its first slash in one way only. -/
theorem SplitsAtSlash.unique {text name rest other others : String}
    (h : SplitsAtSlash text name rest) (hother : SplitsAtSlash text other others) :
    name = other ∧ rest = others := by
  have heq := h.getD_splitOnce.symm.trans hother.getD_splitOnce
  exact ⟨congrArg Prod.fst heq, congrArg Prod.snd heq⟩

/-! ## Resolving -/

namespace Mount

variable {service : String} {spec : ServiceVolume} {volumes : List AppVolume} {tree : SourceTree}
  {mount : Mount}

/-- A text starts with a tilde exactly if this is its first character. -/
theorem startsWith_tilde_iff {text : String} :
    Text.startsWith "~" text = true ↔ ['~'] <+: text.toList := by
  have htilde : "~".toList = ['~'] := by decide
  rw [Text.startsWith, htilde, List.isPrefixOf_iff_prefix]

/-- A path is resolved to the directory below the base that it names, in the first volume of the
app. -/
theorem ofBind_eq_ok (hkind : spec.kind = .bind) :
    ofBind service spec volumes tree = .ok mount ↔
      spec.IsBelow volumes tree ∧ ∃ first, volumes.head? = some first ∧
        mount = ⟨first.name, some (Text.join "/" (SubPath.steps spec.source)), spec.target⟩ := by
  unfold ofBind
  constructor
  · intro h
    split at h
    · cases h
    rename_i hrelative
    split at h
    · cases h
    rename_i hfile
    rw [SourceTree.startsWith_slash_iff, startsWith_tilde_iff, not_or] at hrelative
    rw [SourceTree.leadsToFile_iff] at hfile
    cases volumes with
    | nil => cases h
    | cons first later =>
      dsimp only at h
      split at h
      · cases h
      rename_i sub hsub
      split at h
      · cases h
      rename_i hempty
      cases h
      obtain ⟨hdescends, rfl⟩ := SubPath.descends_of_normalize hsub hempty
      exact ⟨⟨hkind, hrelative, hfile, List.cons_ne_nil _ _, hdescends⟩, first, rfl, rfl⟩
  · rintro ⟨hbelow, first, hfirst, rfl⟩
    obtain ⟨hnormalize, hne⟩ := SubPath.normalize_of_descends hbelow.descends
    obtain ⟨later, rfl⟩ : ∃ later, volumes = first :: later := by
      cases volumes with
      | nil => cases hfirst
      | cons head later => exact ⟨later, by rw [Option.some_inj.1 hfirst]⟩
    have hrelative : ¬(Text.startsWith "/" spec.source ∨ Text.startsWith "~" spec.source) := by
      rw [SourceTree.startsWith_slash_iff, startsWith_tilde_iff, not_or]
      exact hbelow.relative
    have hfile : ¬ tree.leadsToFile spec.source = true := by
      rw [SourceTree.leadsToFile_iff]
      exact hbelow.noFile
    rw [if_neg hrelative, if_neg hfile]
    simp only [hnormalize]
    rw [if_neg (by rwa [String.isEmpty_iff])]

/-- A name is resolved to the volume of the app that it names, or a directory in it. -/
theorem ofName_eq_ok (hkind : spec.kind = .named) :
    ofName service spec volumes = .ok mount ↔
      ∃ name rest, spec.IsNamed volumes name rest ∧
        mount = ⟨name, if rest = "" then none else some (Text.join "/" (SubPath.steps rest)),
          spec.target⟩ := by
  obtain ⟨name, rest, hsplits⟩ := exists_splitsAtSlash spec.source
  have hknown : (!volumes.any (·.name == name)) = true ↔ name ∉ volumes.map (·.name) := by
    simp
  unfold ofName
  rw [hsplits.getD_splitOnce]
  dsimp only
  constructor
  · intro h
    split at h
    · cases h
    rename_i hname
    rw [hknown, not_not] at hname
    split at h
    · rename_i hempty
      rw [String.isEmpty_iff] at hempty
      cases h
      exact ⟨name, rest, ⟨hkind, hsplits, hname, .inl hempty⟩, by rw [if_pos hempty]⟩
    · rename_i hrest
      rw [String.isEmpty_iff] at hrest
      split at h
      · cases h
      rename_i sub hsub
      split at h
      · cases h
      rename_i hempty
      cases h
      obtain ⟨hdescends, rfl⟩ := SubPath.descends_of_normalize hsub hempty
      exact ⟨name, rest, ⟨hkind, hsplits, hname, .inr hdescends⟩, by rw [if_neg hrest]⟩
  · rintro ⟨other, others, hnamed, rfl⟩
    obtain ⟨rfl, rfl⟩ := hsplits.unique hnamed.splits
    rw [if_neg (mt hknown.1 (not_not.2 hnamed.known))]
    by_cases hrest : rest = ""
    · rw [if_pos (String.isEmpty_iff.2 hrest), if_pos hrest]
    · have hdescends := hnamed.descends.resolve_left hrest
      obtain ⟨hnormalize, hne⟩ := SubPath.normalize_of_descends hdescends
      rw [if_neg (by rwa [String.isEmpty_iff]), if_neg hrest]
      simp only [hnormalize]
      rw [if_neg (by rwa [String.isEmpty_iff])]

/-- A service volume is written exactly if its source and its target are there and no colon is in
the source. -/
theorem isWritten_iff :
    spec.IsWritten ↔ ¬(spec.source.isEmpty = true ∨ spec.target.isEmpty = true) ∧
      ¬ Text.containsChar ':' spec.source = true := by
  rw [not_or, String.isEmpty_iff, String.isEmpty_iff, Text.containsChar, List.contains_iff_mem]
  exact ⟨fun h => ⟨⟨h.source_ne, h.target_ne⟩, h.noColon⟩, fun h => ⟨h.1.1, h.1.2, h.2⟩⟩

/-- A service volume is resolved exactly if it designates a part of a volume, and then to that
part. -/
theorem resolve_eq_ok :
    resolve service spec volumes tree = .ok mount ↔
      spec.IsWritten ∧ spec.Designates volumes tree mount := by
  rw [isWritten_iff]
  unfold resolve
  constructor
  · intro h
    split at h
    · cases h
    rename_i hthere
    split at h
    · cases h
    rename_i hcolon
    refine ⟨⟨hthere, hcolon⟩, ?_⟩
    split at h
    · rename_i hkind
      obtain ⟨hbelow, first, hfirst, rfl⟩ := (ofBind_eq_ok hkind).1 h
      exact .below first hfirst hbelow
    · rename_i hkind
      obtain ⟨name, rest, hnamed, rfl⟩ := (ofName_eq_ok hkind).1 h
      exact .named name rest hnamed
    · cases h
  · rintro ⟨⟨hthere, hcolon⟩, hdesignates⟩
    rw [if_neg hthere, if_neg hcolon]
    cases hdesignates with
    | below first hfirst h =>
      simp only [h.kind_eq]
      exact (ofBind_eq_ok h.kind_eq).2 ⟨h, first, hfirst, rfl⟩
    | named name rest h =>
      simp only [h.kind_eq]
      exact (ofName_eq_ok h.kind_eq).2 ⟨name, rest, h, rfl⟩

/-- Every mount is of a volume of the app. -/
theorem volume_mem_of_resolve (h : resolve service spec volumes tree = .ok mount) :
    mount.volume ∈ volumes.map (·.name) := by
  cases (resolve_eq_ok.1 h).2 with
  | below first hfirst hbelow => exact List.mem_map_of_mem (List.mem_of_head? hfirst)
  | named name rest hnamed => exact hnamed.known

/-- A service volume designates something exactly if it is a path below the base or names a
volume. -/
theorem exists_designates_iff :
    (∃ mount, spec.Designates volumes tree mount) ↔
      spec.IsBelow volumes tree ∨ ∃ name rest, spec.IsNamed volumes name rest := by
  constructor
  · rintro ⟨mount, hdesignates⟩
    cases hdesignates with
    | below first hfirst h => exact .inl h
    | named name rest h => exact .inr ⟨name, rest, h⟩
  · rintro (h | ⟨name, rest, h⟩)
    · obtain ⟨first, later, hvolumes⟩ := List.exists_cons_of_ne_nil h.volumes_ne_nil
      have hfirst : volumes.head? = some first := by rw [hvolumes, List.head?_cons]
      exact ⟨_, .below first hfirst h⟩
    · exact ⟨_, .named name rest h⟩

/-- What is designated has the volume, the directory and the target that are written. -/
theorem isShownBy_of_designates (h : spec.Designates volumes tree mount) :
    spec.IsShownBy volumes mount := by
  cases h with
  | below first hfirst h =>
    have hne := (SubPath.normalize_of_descends h.descends).2
    have hkind : spec.kind ≠ .named := by
      rw [h.kind_eq]
      decide
    constructor
    case target_eq => rfl
    case below => exact fun _ => ⟨by rw [hfirst, Option.map_some], rfl⟩
    case named => exact fun hnamed => absurd hnamed hkind
    case whole_iff => exact iff_of_false nofun fun hnamed => hkind hnamed.1
    case nonempty => exact fun hempty => hne (Option.some_inj.1 hempty)
  | named name rest h =>
    have hkind : spec.kind ≠ .bind := by
      rw [h.kind_eq]
      decide
    constructor
    case target_eq => rfl
    case below => exact fun hbind => absurd hbind hkind
    case named =>
      intro _ other others hsplits
      obtain ⟨rfl, rfl⟩ := h.splits.unique hsplits
      exact ⟨rfl, rfl⟩
    case whole_iff =>
      constructor
      · intro hnone
        by_cases hrest : rest = ""
        · subst hrest
          exact ⟨h.kind_eq, name, h.splits⟩
        · rw [if_neg hrest] at hnone
          cases hnone
      · rintro ⟨-, other, hsplits⟩
        exact if_pos (h.splits.unique hsplits).2
    case nonempty =>
      intro hempty
      by_cases hrest : rest = ""
      · rw [if_pos hrest] at hempty
        cases hempty
      · have hne := (SubPath.normalize_of_descends (h.descends.resolve_left hrest)).2
        rw [if_neg hrest] at hempty
        exact hne (Option.some_inj.1 hempty)

/-- A service volume is resolved exactly if it is written as one and names a directory below the
base or a volume of the app; and the mount shows what it names. -/
theorem resolved_iff_named (service : String) (spec : ServiceVolume) (volumes : List AppVolume)
    (tree : SourceTree) :
    ((∃ mount, resolve service spec volumes tree = .ok mount) ↔
      spec.IsWritten ∧ (spec.IsBelow volumes tree ∨ ∃ name rest, spec.IsNamed volumes name rest)) ∧
    ∀ mount, resolve service spec volumes tree = .ok mount → spec.IsShownBy volumes mount := by
  constructor
  · simp only [resolve_eq_ok, exists_and_left, exists_designates_iff]
  · intro mount h
    exact isShownBy_of_designates (resolve_eq_ok.1 h).2

end Mount

end ComposeCluster.Compose
