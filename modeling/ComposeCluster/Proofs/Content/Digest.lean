import ComposeCluster.Content.Objects
import ComposeCluster.Proofs.Content.Reference
import ComposeCluster.Proofs.Env.Data
import ComposeCluster.Proofs.Naming.Identity
import ComposeCluster.Proofs.Text.Utf8

/-!
# What the digest of data tells apart

A digest is taken of entries by ascending key, so only what is in the data counts, not where it
comes from (`digestInput_eq_of_perm`). An entry is written with an equals sign behind its key and a
zero byte behind its value. Where no key has an equals sign and no value a zero byte, each entry
ends where it seems to end, and what is written determines all entries (`flatMap_entryBytes_inj`,
`digestInput_eq_iff_perm`). The data of environments is like that because it has been checked
(`separable_of_checkData`).
-/

set_option autoImplicit false

namespace ComposeCluster.Content

variable {entries others : List (String × Bytes)}

/-! ## Order -/

/-- Sorting entries by their keys leaves them the same entries. -/
theorem sortedByKey_perm (entries : List (String × Bytes)) : (sortedByKey entries).Perm entries :=
  List.mergeSort_perm _ _

/-- Entries with different keys have one order. -/
theorem sortedByKey_eq_of_perm (hkeys : (entries.map (·.1)).Nodup) (h : entries.Perm others) :
    sortedByKey entries = sortedByKey others :=
  mergeSort_key_eq_of_perm hkeys h

/-- What is digested does not depend on where an entry comes. -/
theorem digestInput_eq_of_perm (hkeys : (entries.map (·.1)).Nodup) (h : entries.Perm others) :
    digestInput entries = digestInput others := by
  rw [digestInput, digestInput, sortedByKey_eq_of_perm hkeys h]

/-! ## Entries in bytes -/

/-- The byte of the equals sign stands in the bytes of a key exactly if the sign stands in the
key. -/
theorem equals_mem_utf8_iff (key : String) : 0x3D ∈ Text.utf8 key ↔ '=' ∈ key.toList :=
  Text.mem_utf8_iff (c := '=') (by decide) key

/-- The zero byte stands in the bytes of a text exactly if the character does in the text. -/
theorem zero_mem_utf8_iff (text : String) : 0 ∈ Text.utf8 text ↔ '\x00' ∈ text.toList :=
  Text.mem_utf8_iff (c := '\x00') (by decide) text

/-- The first equals sign ends the key. -/
theorem entryBytes_append_inj {entry other : String × Bytes} {back found : Bytes}
    (hkey : '=' ∉ entry.1.toList) (hother : '=' ∉ other.1.toList) :
    entryBytes entry ++ back = entryBytes other ++ found ↔
      entry.1 = other.1 ∧ entry.2 ++ 0 :: back = other.2 ++ 0 :: found := by
  have hbytes (entry : String × Bytes) (back : Bytes) : entryBytes entry ++ back =
      Text.utf8 entry.1 ++ 0x3D :: (entry.2 ++ 0 :: back) := by
    simp [entryBytes]
  rw [hbytes, hbytes, append_cons_inj_of_notMem (mt (equals_mem_utf8_iff _).1 hkey)
    (mt (equals_mem_utf8_iff _).1 hother), Text.utf8_inj]

/-- Where keys have no equals signs and values no zero bytes, entries are known by their bytes. -/
theorem flatMap_entryBytes_inj
    (h : ∀ entry ∈ entries ++ others, '=' ∉ entry.1.toList ∧ 0 ∉ entry.2)
    (hbytes : entries.flatMap entryBytes = others.flatMap entryBytes) : entries = others := by
  induction entries generalizing others with
  | nil =>
    cases others with
    | nil => rfl
    | cons other rest => simp [entryBytes] at hbytes
  | cons entry entries ih =>
    cases others with
    | nil => simp [entryBytes] at hbytes
    | cons other others =>
      obtain ⟨hentry, hzero⟩ := h entry (by simp)
      obtain ⟨hother, hotherZero⟩ := h other (by simp)
      rw [List.flatMap_cons, List.flatMap_cons, entryBytes_append_inj hentry hother,
        append_cons_inj_of_notMem hzero hotherZero] at hbytes
      obtain ⟨hkey, hvalue, hrest⟩ := hbytes
      have htail := ih (fun found hmem => h found (by simp at hmem ⊢; tauto)) hrest
      rw [Prod.ext hkey hvalue, htail]

/-- What is digested determines the entries up to their order. -/
theorem digestInput_eq_iff_perm (hkeys : (entries.map (·.1)).Nodup)
    (h : ∀ entry ∈ entries ++ others, '=' ∉ entry.1.toList ∧ 0 ∉ entry.2) :
    digestInput entries = digestInput others ↔ entries.Perm others := by
  refine ⟨fun hbytes => ?_, digestInput_eq_of_perm hkeys⟩
  have hfirst := sortedByKey_perm entries
  have hsecond := sortedByKey_perm others
  have hsame : sortedByKey entries = sortedByKey others := by
    apply flatMap_entryBytes_inj _ hbytes
    intro entry hmem
    exact h entry ((hfirst.append hsecond).mem_iff.1 hmem)
  exact hfirst.symm.trans (hsame ▸ hsecond)

/-- Of a single entry only the key has to be free of equals signs, since its value ends with all
that there is. -/
theorem digestInput_singleton_inj {entry other : String × Bytes} (hkey : '=' ∉ entry.1.toList)
    (hother : '=' ∉ other.1.toList) :
    digestInput [entry] = digestInput [other] ↔ entry = other := by
  have hone (entry : String × Bytes) : digestInput [entry] = entryBytes entry := by
    rw [digestInput, sortedByKey, List.mergeSort_singleton, List.flatMap_singleton]
  have hbytes : entryBytes entry ++ [] = entryBytes other ++ [] ↔ _ :=
    entryBytes_append_inj hkey hother
  rw [List.append_nil, List.append_nil, List.append_left_inj] at hbytes
  rw [hone, hone, hbytes, Prod.ext_iff]

/-! ## Environments -/

/-- The entries of an environment that passed its check are kept apart by the bytes between them. -/
theorem separable_of_checkData {env : Compose.EnvData} (h : Env.checkData env.data = .ok ()) :
    ∀ entry ∈ Scope.envEntries env,
      '=' ∉ entry.1.toList ∧ '\x00' ∉ entry.1.toList ∧ 0 ∉ entry.2 := by
  intro entry hmem
  obtain ⟨found, hfound, rfl⟩ := List.mem_map.1 hmem
  obtain ⟨hall, -⟩ := (Env.checkEntries_eq_ok (Nat.zero_le _)).1 h
  obtain ⟨hkey, hvalue⟩ := hall found hfound
  refine ⟨fun hc => ?_, fun hc => ?_, fun hc => ?_⟩
  · rcases Env.isAlphanum_of_mem_key hkey hc with h | h <;> exact absurd h (by decide)
  · rcases Env.isAlphanum_of_mem_key hkey hc with h | h <;> exact absurd h (by decide)
  · exact absurd (hvalue _ ((zero_mem_utf8_iff _).1 hc)) (by decide)

/-- The entries of an environment are sorted already. -/
theorem sortedByKey_envEntries (env : Compose.EnvData) :
    sortedByKey (Scope.envEntries env) = Scope.envEntries env := by
  have hsorted : env.data.entries.Pairwise fun a b => compare a.1 b.1 = .lt := env.data.sorted
  refine List.mergeSort_of_pairwise (List.pairwise_map.2 (hsorted.imp fun {a b} hlt => ?_))
  show (compare a.1 b.1).isLE = true
  rw [hlt]
  rfl

/-- Environments with the same entries have the same data. -/
theorem envEntries_inj {env other : Compose.EnvData} :
    Scope.envEntries env = Scope.envEntries other ↔ env.data = other.data := by
  have hinj : Function.Injective fun entry : String × String => (entry.1, Text.utf8 entry.2) := by
    rintro ⟨key, value⟩ ⟨otherKey, otherValue⟩ h
    obtain ⟨hkey, hvalue⟩ := Prod.mk.inj h
    exact Prod.ext hkey (Text.utf8_inj.1 hvalue)
  rw [Scope.envEntries, Scope.envEntries, hinj.list_map.eq_iff]
  exact ⟨SortedMap.ext, fun h => h ▸ rfl⟩

/-- Environments that passed their check are digested alike exactly if they have the same data. -/
theorem digestInput_envEntries_inj {env other : Compose.EnvData}
    (henv : Env.checkData env.data = .ok ()) (hother : Env.checkData other.data = .ok ()) :
    digestInput (Scope.envEntries env) = digestInput (Scope.envEntries other) ↔
      env.data = other.data := by
  rw [← envEntries_inj, digestInput, digestInput, sortedByKey_envEntries, sortedByKey_envEntries]
  refine ⟨fun hbytes => flatMap_entryBytes_inj ?_ hbytes, fun h => by rw [h]⟩
  intro entry hmem
  rcases List.mem_append.1 hmem with hmem | hmem
  · have hfound := separable_of_checkData henv entry hmem
    exact ⟨hfound.1, hfound.2.2⟩
  · have hfound := separable_of_checkData hother entry hmem
    exact ⟨hfound.1, hfound.2.2⟩

/-! ## Digests -/

/-- Entries with different keys have one digest in whatever order they come. What the digest is
taken of is the same for two such lists only if they hold the same entries, as long as keys have no
equals signs and values no zero bytes, or each list is a single entry whose key has no equals sign.
The data of an environment that was checked is of the first kind. -/
theorem digestInput_canonical :
    (∀ entries others : List (String × Bytes), (entries.map (·.1)).Nodup → entries.Perm others →
      digest entries = digest others) ∧
    (∀ entries others : List (String × Bytes), (entries.map (·.1)).Nodup →
      (others.map (·.1)).Nodup →
      (∀ entry ∈ entries ++ others, '=' ∉ entry.1.toList ∧ 0 ∉ entry.2) →
        (digestInput entries = digestInput others ↔ entries.Perm others)) ∧
    (∀ entry other : String × Bytes, '=' ∉ entry.1.toList → '=' ∉ other.1.toList →
      (digestInput [entry] = digestInput [other] ↔ entry = other)) ∧
    ∀ env other : Compose.EnvData, Env.checkData env.data = .ok () →
      Env.checkData other.data = .ok () →
        (∀ entry ∈ Scope.envEntries env,
          '=' ∉ entry.1.toList ∧ '\x00' ∉ entry.1.toList ∧ 0 ∉ entry.2) ∧
        (digestInput (Scope.envEntries env) = digestInput (Scope.envEntries other) ↔
          env.data = other.data) := by
  refine ⟨?order, ?entries, ?single, ?environment⟩
  case order =>
    intro entries others hkeys hperm
    rw [digest, digest, digestInput_eq_of_perm hkeys hperm]
  case entries =>
    intro entries others hkeys _ hseparable
    exact digestInput_eq_iff_perm hkeys hseparable
  case single =>
    intro entry other hkey hother
    exact digestInput_singleton_inj hkey hother
  case environment =>
    intro env other henv hother
    exact ⟨separable_of_checkData henv, digestInput_envEntries_inj henv hother⟩

/-- Values may be empty and have equals signs. -/
theorem digestInput_canonical_for_pairs :
    let entries := [("B", Text.utf8 "1=2"), ("A", [])]
    let others := [("A", Text.utf8 "B=1"), ("B", Text.utf8 "2")]
    let env : Compose.EnvData := ⟨"web", .singleton "A" "1"⟩
    let other : Compose.EnvData := ⟨"web", .singleton "A" "2"⟩
    digest entries = digest entries.reverse ∧ digestInput entries ≠ digestInput others ∧
      digestInput [("k", [0, 0x3D, 0])] ≠ digestInput [("k", [0, 0x3D])] ∧
      digestInput (Scope.envEntries env) ≠ digestInput (Scope.envEntries other) := by
  intro entries others env other
  obtain ⟨horder, hplain, hsingle, henvironment⟩ := digestInput_canonical
  refine ⟨horder _ _ (by decide) (List.reverse_perm _).symm, fun h => ?_, fun h => ?_, fun h => ?_⟩
  · have hperm := (hplain _ _ (by decide) (by decide) (by decide)).1 h
    exact absurd (hperm.mem_iff.1 List.mem_cons_self) (by decide)
  · exact absurd ((hsingle _ _ (by decide) (by decide)).1 h) (by decide)
  · have hchecked : Env.checkData env.data = .ok () ∧ Env.checkData other.data = .ok () := by
      decide +kernel
    exact absurd ((henvironment env other hchecked.1 hchecked.2).2.1 h) (by decide)

end ComposeCluster.Content
