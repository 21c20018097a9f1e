import ComposeCluster.Naming.Identity
import Mathlib.Data.List.Dedup

/-!
# Names that tell apps apart

The names of apps and of volumes may hold hyphens, and hyphens join them to the hashes around them.
The names that result are told apart all the same, because the hashes have one length
(`framed_inj`). Texts to be hashed are joined with colons, which no name holds (`append_colon_inj`).
So as long as no two of the texts have one hash, equal names mean equal parts
(`Identity.names_tell_apart`).
-/

set_option autoImplicit false

namespace ComposeCluster

/-! ## Joined texts -/

/-- Two texts that are cut at their first separator are equal exactly if both parts are. -/
theorem append_cons_inj_of_notMem {α : Type} [DecidableEq α] {sep : α}
    {front other rest found : List α} (hfront : sep ∉ front) (hother : sep ∉ other) :
    front ++ sep :: rest = other ++ sep :: found ↔ front = other ∧ rest = found := by
  have htake {list : List α} (hlist : sep ∉ list) (back : List α) :
      (list ++ sep :: back).takeWhile (· ≠ sep) = list := by
    have hall : ∀ c ∈ list, decide (c ≠ sep) = true := fun c hmem =>
      decide_eq_true fun heq => hlist (heq ▸ hmem)
    rw [List.takeWhile_append_of_pos hall, List.takeWhile_cons_of_neg (by simp), List.append_nil]
  constructor
  · intro h
    have hsame : front = other := by rw [← htake hfront rest, h, htake hother found]
    subst hsame
    exact ⟨rfl, (List.cons.inj (List.append_cancel_left h)).2⟩
  · rintro ⟨rfl, rfl⟩
    rfl

/-- The first colon ends the first text. -/
theorem append_colon_inj {front other rest found : String} (hfront : ':' ∉ front.toList)
    (hother : ':' ∉ other.toList) :
    front ++ ":" ++ rest = other ++ ":" ++ found ↔ front = other ∧ rest = found := by
  have htoList (text more : String) :
      (text ++ ":" ++ more).toList = text.toList ++ ':' :: more.toList := by
    rw [String.toList_append, String.toList_append, List.append_assoc]
    rfl
  rw [← String.toList_inj, htoList, htoList, append_cons_inj_of_notMem hfront hother,
    String.toList_inj, String.toList_inj]

/-- The length of the first text ends it. -/
theorem append_inj_of_length {front other rest found : String}
    (hlength : front.length = other.length) :
    front ++ rest = other ++ found ↔ front = other ∧ rest = found := by
  constructor
  · intro h
    have hlist := congrArg String.toList h
    rw [String.toList_append, String.toList_append] at hlist
    obtain ⟨hfront, hrest⟩ := List.append_inj hlist hlength
    exact ⟨String.toList_inj.1 hfront, String.toList_inj.1 hrest⟩
  · rintro ⟨rfl, rfl⟩
    rfl

/-- Two texts whose ends have one length are equal exactly if both parts are. -/
theorem append_inj_of_length_right {front other rest found : String}
    (hlength : rest.length = found.length) :
    front ++ rest = other ++ found ↔ front = other ∧ rest = found := by
  constructor
  · intro h
    have hlist := congrArg String.toList h
    rw [String.toList_append, String.toList_append] at hlist
    obtain ⟨hfront, hrest⟩ := List.append_inj' hlist hlength
    exact ⟨String.toList_inj.1 hfront, String.toList_inj.1 hrest⟩
  · rintro ⟨rfl, rfl⟩
    rfl

/-- A name between two texts of fixed lengths, whatever the name holds. -/
theorem framed_inj {start left found name other right last : String}
    (hleft : left.length = found.length) (hright : right.length = last.length) :
    start ++ "-" ++ left ++ "-" ++ name ++ "-" ++ right =
        start ++ "-" ++ found ++ "-" ++ other ++ "-" ++ last ↔
      left = found ∧ name = other ∧ right = last := by
  have hfront : (start ++ "-" ++ left ++ "-").length = (start ++ "-" ++ found ++ "-").length := by
    simp only [String.length_append, hleft]
  rw [append_inj_of_length_right hright, String.append_left_inj, append_inj_of_length hfront,
    String.append_left_inj, String.append_right_inj, and_assoc]

/-! ## Hashed texts -/

/-- Short hashes of one length have as many characters. -/
theorem length_shortHash_eq (text other : String) (length : Nat) :
    (shortHash text length).length = (shortHash other length).length := by
  rw [shortHash, shortHash, length_shortHashOf, length_shortHashOf]

/-- No two of the texts have one short hash of this length. -/
def ShortHash.TellsApart (length : Nat) (texts : List String) : Prop :=
  ∀ text ∈ texts, ∀ other ∈ texts, shortHash text length = shortHash other length → text = other

/-- Hashes of texts that are told apart are equal exactly if the texts are. -/
theorem ShortHash.TellsApart.hash_eq_iff {length : Nat} {texts : List String}
    (h : TellsApart length texts) (text other : String) (htext : text ∈ texts)
    (hother : other ∈ texts) :
    shortHash text length = shortHash other length ↔ text = other :=
  ⟨h text htext other hother, fun heq => heq ▸ rfl⟩

/-- Texts are told apart if no hash is there twice. -/
theorem ShortHash.tellsApart_of_nodup {length : Nat} {texts : List String}
    (h : (texts.dedup.map (shortHash · length)).Nodup) : TellsApart length texts :=
  fun _ htext _ hother => List.inj_on_of_nodup_map h (List.mem_dedup.2 htext)
    (List.mem_dedup.2 hother)

namespace Placement

variable {p q : Placement}

/-- Whether no name holds the colon that joins names. -/
def ColonFree (p : Placement) : Prop := ∀ name ∈ p.names, ':' ∉ name.toList

instance (p : Placement) : Decidable p.ColonFree :=
  inferInstanceAs (Decidable (∀ name ∈ p.names, ':' ∉ name.toList))

/-- The texts that the hashes of an identity are taken of. -/
def hashedTexts (p : Placement) : List String :=
  [p.workspace, p.providerKey, p.clusterKey, p.appKey, p.instanceKey]

/-- Placements have one key of the provider exactly if they are with one provider. -/
theorem providerKey_inj (hp : p.ColonFree) (hq : q.ColonFree) :
    p.providerKey = q.providerKey ↔ p.workspace = q.workspace ∧ p.provider = q.provider :=
  append_colon_inj (hp p.workspace (by simp [names])) (hq q.workspace (by simp [names]))

/-- Placements have one key of the app exactly if they are of one app with one provider. -/
theorem appKey_inj (hp : p.ColonFree) (hq : q.ColonFree) :
    p.appKey = q.appKey ↔ p.workspace = q.workspace ∧ p.provider = q.provider ∧ p.app = q.app := by
  have hassoc (r : Placement) : r.appKey = r.workspace ++ ":" ++ (r.provider ++ ":" ++ r.app) := by
    simp only [appKey, providerKey, String.append_assoc]
  rw [hassoc, hassoc, append_colon_inj (hp p.workspace (by simp [names]))
      (hq q.workspace (by simp [names])),
    append_colon_inj (hp p.provider (by simp [names])) (hq q.provider (by simp [names]))]

/-- Placements have one key of the instance exactly if they are the same. -/
theorem instanceKey_inj (hp : p.ColonFree) (hq : q.ColonFree) :
    p.instanceKey = q.instanceKey ↔
      p.workspace = q.workspace ∧ p.provider = q.provider ∧ p.cluster = q.cluster ∧
        p.app = q.app := by
  have hassoc (r : Placement) : r.instanceKey =
      r.workspace ++ ":" ++ (r.provider ++ ":" ++ (r.cluster ++ ":" ++ r.app)) := by
    simp only [instanceKey, clusterKey, providerKey, String.append_assoc]
  rw [hassoc, hassoc, append_colon_inj (hp p.workspace (by simp [names]))
      (hq q.workspace (by simp [names])),
    append_colon_inj (hp p.provider (by simp [names])) (hq q.provider (by simp [names])),
    append_colon_inj (hp p.cluster (by simp [names])) (hq q.cluster (by simp [names]))]

end Placement

/-! ## Derived names -/

namespace Identity

/-- A namespace is named for its app between two hashes. -/
theorem nameSpace_of (p : Placement) (length : Nat) :
    (of p length).nameSpace =
      resourceStart ++ "-" ++ shortHash p.providerKey length ++ "-" ++ p.app ++ "-" ++
        shortHash p.appKey length :=
  rfl

/-- The objects of a volume are named for it between the hash of the provider and those of app and
disk. -/
theorem volumeResource_of (p : Placement) (length : Nat) (volume handle : String) :
    (of p length).volumeResource volume handle =
      resourceStart ++ "-" ++ shortHash p.providerKey length ++ "-" ++ volume ++ "-" ++
        (shortHash p.appKey length ++ ("-" ++ shortHash handle length)) := by
  simp only [volumeResource, of, hash, String.append_assoc]

/-- As long as no two of the hashed texts have one hash: the namespace tells apart the apps of a
provider whatever their clusters, the instance also tells clusters apart, and the name of a bound
volume tells apart apps, volumes and disks. -/
theorem names_tell_apart {p q : Placement} {length : Nat} (hp : p.ColonFree) (hq : q.ColonFree)
    (hapart : ShortHash.TellsApart length (p.hashedTexts ++ q.hashedTexts)) :
    ((of p length).nameSpace = (of q length).nameSpace ↔
      p.workspace = q.workspace ∧ p.provider = q.provider ∧ p.app = q.app) ∧
    ((of p length).appInstance = (of q length).appInstance ↔
      p.workspace = q.workspace ∧ p.provider = q.provider ∧ p.cluster = q.cluster ∧
        p.app = q.app) ∧
    ∀ volume other handle found,
      (shortHash handle length = shortHash found length → handle = found) →
      ((of p length).volumeResource volume handle = (of q length).volumeResource other found ↔
        p.workspace = q.workspace ∧ p.provider = q.provider ∧ p.app = q.app ∧
          volume = other ∧ handle = found) := by
  have hprovider := (hapart.hash_eq_iff p.providerKey q.providerKey
    (by simp [Placement.hashedTexts]) (by simp [Placement.hashedTexts])).trans
    (Placement.providerKey_inj hp hq)
  have happ := (hapart.hash_eq_iff p.appKey q.appKey
    (by simp [Placement.hashedTexts]) (by simp [Placement.hashedTexts])).trans
    (Placement.appKey_inj hp hq)
  have hinstance := (hapart.hash_eq_iff p.instanceKey q.instanceKey
    (by simp [Placement.hashedTexts]) (by simp [Placement.hashedTexts])).trans
    (Placement.instanceKey_inj hp hq)
  have hlength (text other : String) : (shortHash text length).length =
      (shortHash other length).length := length_shortHash_eq text other length
  refine ⟨?_, hinstance, fun volume other handle found hhandle => ?_⟩
  case refine_1 =>
    rw [nameSpace_of, nameSpace_of, framed_inj (hlength _ _) (hlength _ _), hprovider, happ]
    exact ⟨fun ⟨⟨hw, hpr⟩, ha, _⟩ => ⟨hw, hpr, ha⟩,
      fun ⟨hw, hpr, ha⟩ => ⟨⟨hw, hpr⟩, ha, hw, hpr, ha⟩⟩
  case refine_2 =>
    have hdisk : shortHash handle length = shortHash found length ↔ handle = found :=
      ⟨hhandle, fun heq => heq ▸ rfl⟩
    have hright : (shortHash p.appKey length ++ ("-" ++ shortHash handle length)).length =
        (shortHash q.appKey length ++ ("-" ++ shortHash found length)).length := by
      rw [String.length_append, String.length_append, String.length_append, String.length_append,
        hlength p.appKey q.appKey, hlength handle found]
    rw [volumeResource_of, volumeResource_of, framed_inj (hlength _ _) hright,
      append_inj_of_length (hlength _ _), String.append_right_inj, hprovider, happ, hdisk]
    exact ⟨fun ⟨⟨hw, hpr⟩, hv, ⟨_, _, ha⟩, hd⟩ => ⟨hw, hpr, ha, hv, hd⟩,
      fun ⟨hw, hpr, ha, hv, hd⟩ => ⟨⟨hw, hpr⟩, hv, ⟨hw, hpr, ha⟩, hd⟩⟩

/-- An app on two clusters, where its name ends like the name of a volume: it keeps its namespace
and the names of its volumes, and a part that moves from one name to the other makes a
difference. -/
theorem names_tell_apart_for_moved :
    let east := of ⟨"team", "home", "east", "shop-data"⟩ defaultHashLength
    let west := of ⟨"team", "home", "west", "shop-data"⟩ defaultHashLength
    east.nameSpace = west.nameSpace ∧ east.appInstance ≠ west.appInstance ∧
      east.volumeResource "data" "disk-1" = west.volumeResource "data" "disk-1" ∧
      east.volumeResource "data-1" "disk" ≠ west.volumeResource "data" "1-disk" := by
  have hapart : ShortHash.TellsApart defaultHashLength
      (Placement.hashedTexts ⟨"team", "home", "east", "shop-data"⟩ ++
        Placement.hashedTexts ⟨"team", "home", "west", "shop-data"⟩) :=
    ShortHash.tellsApart_of_nodup (by decide +kernel)
  have hdisks : shortHash "disk" defaultHashLength ≠ shortHash "1-disk" defaultHashLength := by
    decide +kernel
  obtain ⟨hnameSpace, hinstance, hvolume⟩ := names_tell_apart (by decide) (by decide) hapart
  refine ⟨hnameSpace.2 ⟨rfl, rfl, rfl⟩, fun heq => ?_, ?_, fun heq => ?_⟩
  · exact absurd (hinstance.1 heq).2.2.1 (by decide)
  · exact (hvolume "data" "data" "disk-1" "disk-1" fun _ => rfl).2 ⟨rfl, rfl, rfl, rfl, rfl⟩
  · exact absurd ((hvolume _ _ _ _ fun hsame => absurd hsame hdisks).1 heq).2.2.2.1 (by decide)

end Identity

end ComposeCluster
