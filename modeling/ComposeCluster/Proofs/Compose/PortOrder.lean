import ComposeCluster.Proofs.Compose.Port
import Mathlib.Data.List.Pairwise

/-!
# Ports published in any order

A table of published ports is asked for one mapping after the other (`PublishedPorts.register`), and
a mapping that is refused changes nothing. What the table holds in the end is what it accepted
(`PublishedPorts.Records.offerAll`). Whether a mapping is accepted depends on those before it only
through conflicts, and whether two mappings conflict does not depend on their order. Hence a list of
mappings is accepted as a whole exactly if each of them is valid and no two of them conflict
(`PublishedPorts.Records.forall_isOk_iff`), and then any other order of them gives the same table.
-/

set_option autoImplicit false

namespace ComposeCluster.Compose

/-! ## Mappings -/

/-- A mapping leads from a host port to a container port: both are there, the host port is written
as a number, and neither is zero. -/
def PortMapping.Leads (mapping : PortMapping) (host target : Port) : Prop :=
  (∃ text, mapping.published? = some text ∧ Text.port? text = some host) ∧ host ≠ 0 ∧
    mapping.target? = some target ∧ target ≠ 0

/-- A mapping that can be accepted. -/
def PortMapping.IsValid (mapping : PortMapping) : Prop :=
  ∃ host target, mapping.Leads host target

/-- Two services ask for one container port, or two container ports are asked for behind one host
port. -/
def Conflict (first second : Publication) : Prop :=
  ∃ host target otherHost otherTarget,
    first.2.Leads host target ∧ second.2.Leads otherHost otherTarget ∧
      (target = otherTarget ∧ first.1 ≠ second.1 ∨ host = otherHost ∧ target ≠ otherTarget)

/-- Two publications conflict in either order. -/
theorem Conflict.symm {first second : Publication} (h : Conflict first second) :
    Conflict second first := by
  obtain ⟨host, target, otherHost, otherTarget, hfirst, hsecond, ⟨heq, hne⟩ | ⟨heq, hne⟩⟩ := h
  · exact ⟨otherHost, otherTarget, host, target, hsecond, hfirst, .inl ⟨heq.symm, hne.symm⟩⟩
  · exact ⟨otherHost, otherTarget, host, target, hsecond, hfirst, .inr ⟨heq.symm, hne.symm⟩⟩

/-- A mapping leads from one host port to one container port at most. -/
theorem PortMapping.Leads.unique {mapping : PortMapping} {host target otherHost otherTarget : Port}
    (h : mapping.Leads host target) (hother : mapping.Leads otherHost otherTarget) :
    otherHost = host ∧ otherTarget = target := by
  obtain ⟨⟨text, htext, hport⟩, -, htarget, -⟩ := h
  obtain ⟨⟨other, hotherText, hotherPort⟩, -, hotherTarget, -⟩ := hother
  rw [htext] at hotherText
  cases hotherText
  rw [hport] at hotherPort
  rw [htarget] at hotherTarget
  exact ⟨(Option.some.inj hotherPort).symm, (Option.some.inj hotherTarget).symm⟩

/-- A publication does not conflict with itself. -/
theorem not_conflict_self (publication : Publication) : ¬ Conflict publication publication := by
  rintro ⟨host, target, otherHost, otherTarget, hfirst, hsecond, ⟨-, hne⟩ | ⟨-, hne⟩⟩
  · exact hne rfl
  · exact hne (hfirst.unique hsecond).2.symm

namespace PublishedPorts

variable {table after : PublishedPorts} {service : String} {mapping : PortMapping}
  {host target : Port} {publication : Publication} {publications others done : List Publication}

/-- The ports of a mapping are those that it leads between. -/
theorem portsOf_eq_ok :
    portsOf service mapping = .ok (host, target) ↔ mapping.Leads host target := by
  unfold portsOf
  constructor
  · intro h
    split at h
    · rename_i text given htext hgiven
      split at h
      · cases h
      · rename_i hzero
        split at h
        · rename_i port hport
          cases h
          obtain ⟨hport, hne⟩ := Option.filter_eq_some_iff.1 hport
          exact ⟨⟨text, htext, hport⟩, bne_iff_ne.1 hne, hgiven, hzero⟩
        · cases h
    · cases h
  · rintro ⟨⟨text, htext, hport⟩, hhost, htarget, hzero⟩
    have hfilter : (Text.port? text).filter (· != 0) = some host :=
      Option.filter_eq_some_iff.2 ⟨hport, bne_iff_ne.2 hhost⟩
    simp only [htext, htarget, if_neg hzero, hfilter]

/-! ## Calls -/

/-- Asks a table for a mapping of a service, by a program that changes the table in place: what it
has done before it fails is not undone. -/
def register (service : String) (mapping : PortMapping) :
    ExceptT Refusal (StateM PublishedPorts) Port := do
  let (host, target) ← ExceptT.mk (pure (portsOf service mapping))
  match ((← get).owners.get? target).filter (· != service) with
  | some owner => throw (.containerPortTaken target owner service)
  | none =>
    match ((← get).hosts.get? host).filter (· != target) with
    | some previous => throw (.hostPortTaken host previous target)
    | none =>
      modify fun table => { table with owners := table.owners.insert target service }
      modify fun table => { table with hosts := table.hosts.insert host target }
      return target

/-- The table after it was asked, and its reply. -/
def offer (table : PublishedPorts) (publication : Publication) :
    PublishedPorts × Except Refusal Port :=
  ((register publication.1 publication.2).run.run table).swap

/-- All checks come before the first change, so it is `publish` that decides about both. -/
theorem offer_eq (table : PublishedPorts) (publication : Publication) :
    table.offer publication =
      match table.publish publication.1 publication.2 with
      | .error refusal => (table, .error refusal)
      | .ok (port, after) => (after, .ok port) := by
  obtain ⟨service, mapping⟩ := publication
  unfold offer register publish
  cases hports : portsOf service mapping with
  | error refusal => rfl
  | ok ports =>
    obtain ⟨host, target⟩ := ports
    have hread (next : PublishedPorts → ExceptT Refusal (StateM PublishedPorts) Port) :
        (get >>= next).run.run table = (next table).run.run table := rfl
    have hfirst (next : Port × Port → ExceptT Refusal (StateM PublishedPorts) Port) :
        ((ExceptT.mk (pure (.ok (host, target))) : ExceptT Refusal (StateM PublishedPorts) _) >>=
          next).run.run table = (next (host, target)).run.run table := rfl
    rw [hfirst, hread]
    cases howner : (table.owners.get? target).filter (· != service) with
    | some owner =>
      simp only [howner]
      rfl
    | none =>
      simp only [howner, hread]
      cases hhost : (table.hosts.get? host).filter (· != target) <;> rfl

/-- Asks a table for mappings, one after the other. -/
def offerAll (table : PublishedPorts) :
    List Publication → PublishedPorts × List (Except Refusal Port)
  | [] => (table, [])
  | publication :: rest =>
    let first := table.offer publication
    let later := first.1.offerAll rest
    (later.1, first.2 :: later.2)

/-- The mappings that were not refused. -/
def accepted (publications : List Publication) (replies : List (Except Refusal Port)) :
    List Publication :=
  ((publications.zip replies).filter fun (_, reply) => reply.isOk).map (·.1)

/-- A table that refuses a mapping stays as it is. -/
theorem fst_offer_of_error {refusal : Refusal} (h : (table.offer publication).2 = .error refusal) :
    (table.offer publication).1 = table := by
  rw [offer_eq] at h ⊢
  split at h
  · rfl
  · cases h

/-- An offer is taken up exactly if the mapping can be published. -/
theorem isOk_offer_iff : (table.offer publication).2.isOk = true ↔
    ∃ port after, table.publish publication.1 publication.2 = .ok (port, after) := by
  rw [offer_eq]
  split
  · rename_i hpublish
    simp [hpublish, Except.isOk, Except.toBool]
  · rename_i port after hpublish
    simp [hpublish, Except.isOk, Except.toBool]

/-- A mapping that was taken up is valid. -/
theorem isValid_of_isOk_offer (h : (table.offer publication).2.isOk = true) :
    publication.2.IsValid := by
  obtain ⟨target, after, hpublish⟩ := isOk_offer_iff.1 h
  obtain ⟨host, hports, -⟩ := publish_eq_ok.1 hpublish
  exact ⟨host, target, portsOf_eq_ok.1 hports⟩

/-- All mappings that were taken up are valid. -/
theorem isValid_of_mem_accepted
    (hmem : publication ∈ accepted publications (table.offerAll publications).2) :
    publication.2.IsValid := by
  induction publications generalizing table with
  | nil => cases hmem
  | cons first rest ih =>
    rw [offerAll] at hmem
    cases hreply : (table.offer first).2 with
    | error refusal =>
      rw [hreply] at hmem
      exact ih hmem
    | ok port =>
      rw [hreply] at hmem
      rcases List.mem_cons.1 hmem with rfl | hmem
      · exact isValid_of_isOk_offer (by rw [hreply]; rfl)
      · exact ih hmem

namespace Records

/-- Each host port in the table is that of a publication. -/
theorem leads_of_hosts (hrecords : Records done table) (h : table.hosts.get? host = some target) :
    ∃ publication ∈ done, publication.2.Leads host target := by
  obtain ⟨service, mapping, hmem, hports⟩ := (hrecords.hosts host target).1 h
  exact ⟨(service, mapping), hmem, portsOf_eq_ok.1 hports⟩

/-- Each container port in the table has the service of a publication for its owner. -/
theorem leads_of_owners (hrecords : Records done table)
    (h : table.owners.get? target = some service) :
    ∃ publication ∈ done, publication.1 = service ∧ ∃ host, publication.2.Leads host target := by
  obtain ⟨host, mapping, hmem, hports⟩ := (hrecords.owners target service).1 h
  exact ⟨(service, mapping), hmem, rfl, host, portsOf_eq_ok.1 hports⟩

/-- A publication is found in the table under its host port. -/
theorem hosts_eq (hrecords : Records done table) (hmem : publication ∈ done)
    (hleads : publication.2.Leads host target) : table.hosts.get? host = some target :=
  (hrecords.hosts host target).2 ⟨publication.1, publication.2, hmem, portsOf_eq_ok.2 hleads⟩

/-- The service of a publication is the owner of its container port. -/
theorem owners_eq (hrecords : Records done table) (hmem : publication ∈ done)
    (hleads : publication.2.Leads host target) :
    table.owners.get? target = some publication.1 :=
  (hrecords.owners target publication.1).2
    ⟨host, publication.2, hmem, portsOf_eq_ok.2 hleads⟩

/-- A table that records mappings refuses those that are not valid, and those that conflict with a
recorded one. -/
theorem isOk_offer_iff (hrecords : Records done table) :
    (table.offer publication).2.isOk = true ↔
      publication.2.IsValid ∧ ∀ earlier ∈ done, ¬ Conflict earlier publication := by
  rw [PublishedPorts.isOk_offer_iff]
  constructor
  · rintro ⟨target, after, hpublish⟩
    obtain ⟨host, hports, howner, hhost, -⟩ := publish_eq_ok.1 hpublish
    have hleads := portsOf_eq_ok.1 hports
    refine ⟨⟨host, target, hleads⟩, fun earlier hmem hconflict => ?_⟩
    obtain ⟨otherHost, otherTarget, host', target', hother, hleads', hcases⟩ := hconflict
    obtain ⟨rfl, rfl⟩ := hleads.unique hleads'
    rcases hcases with ⟨rfl, hne⟩ | ⟨rfl, hne⟩
    · exact hne (howner _ (hrecords.owners_eq hmem hother))
    · exact hne (hhost _ (hrecords.hosts_eq hmem hother))
  · rintro ⟨⟨host, target, hleads⟩, hapart⟩
    refine ⟨target, _, publish_eq_ok.2 ⟨host, portsOf_eq_ok.2 hleads, ?_, ?_, rfl⟩⟩
    · intro owner howner
      obtain ⟨earlier, hmem, rfl, other, hother⟩ := hrecords.leads_of_owners howner
      by_contra hne
      exact hapart earlier hmem
        ⟨other, target, host, target, hother, hleads, .inl ⟨rfl, hne⟩⟩
    · intro previous hprevious
      obtain ⟨earlier, hmem, hother⟩ := hrecords.leads_of_hosts hprevious
      by_contra hne
      exact hapart earlier hmem
        ⟨host, previous, host, target, hother, hleads, .inr ⟨rfl, hne⟩⟩

/-- After an offer that was taken up the table records it as well. -/
theorem offer (hrecords : Records done table)
    (h : (table.offer publication).2.isOk = true) :
    Records (done ++ [publication]) (table.offer publication).1 := by
  obtain ⟨target, after, hpublish⟩ := PublishedPorts.isOk_offer_iff.1 h
  have hnext : (table.offer publication).1 = after := by
    rw [offer_eq, hpublish]
  rw [hnext]
  exact hrecords.publish hpublish

/-- In the end a table records what it accepted. -/
theorem offerAll (hrecords : Records done table) :
    Records (done ++ accepted publications (table.offerAll publications).2)
      (table.offerAll publications).1 := by
  -- By induction on what is still to come; a mapping that is accepted joins those that are done.
  induction publications generalizing done table with
  | nil => rwa [accepted, List.zip_nil_left, List.filter_nil, List.map_nil, List.append_nil]
  | cons publication rest ih =>
    rw [PublishedPorts.offerAll]
    cases hreply : (table.offer publication).2 with
    | error refusal =>
      rw [fst_offer_of_error hreply]
      exact ih hrecords
    | ok port =>
      have hnext : Records (done ++ [publication]) (table.offer publication).1 :=
        hrecords.offer (by rw [hreply]; rfl)
      have hall := ih hnext
      rw [List.append_assoc] at hall
      exact hall

/-- A list of mappings is accepted as a whole exactly if each is valid, and none conflicts with a
recorded one or with another of the list. -/
theorem forall_isOk_iff (hrecords : Records done table) :
    (∀ reply ∈ (table.offerAll publications).2, reply.isOk = true) ↔
      (∀ publication ∈ publications, publication.2.IsValid) ∧
      (∀ earlier ∈ done, ∀ publication ∈ publications, ¬ Conflict earlier publication) ∧
      publications.Pairwise fun earlier later => ¬ Conflict earlier later := by
  induction publications generalizing done table with
  | nil => simp [PublishedPorts.offerAll]
  | cons publication rest ih =>
    rw [PublishedPorts.offerAll, List.forall_mem_cons, List.forall_mem_cons,
      List.pairwise_cons, hrecords.isOk_offer_iff]
    constructor
    · -- The rest is accepted by a table that records this mapping, so it does not conflict with it.
      rintro ⟨⟨hvalid, hapart⟩, hrest⟩
      have hnext := hrecords.offer (hrecords.isOk_offer_iff.2 ⟨hvalid, hapart⟩)
      obtain ⟨hvalids, hdone, hpairs⟩ := (ih hnext).1 hrest
      refine ⟨⟨hvalid, hvalids⟩, fun earlier hmem => ?_, ?_, hpairs⟩
      · exact List.forall_mem_cons.2
          ⟨hapart earlier hmem, hdone earlier (List.mem_append_left _ hmem)⟩
      · exact hdone publication (List.mem_append_right _ List.mem_cons_self)
    · rintro ⟨⟨hvalid, hvalids⟩, hdone, hfirst, hpairs⟩
      have hapart : ∀ earlier ∈ done, ¬ Conflict earlier publication :=
        fun earlier hmem => hdone earlier hmem publication List.mem_cons_self
      have hnext := hrecords.offer (hrecords.isOk_offer_iff.2 ⟨hvalid, hapart⟩)
      refine ⟨⟨hvalid, hapart⟩, (ih hnext).2 ⟨hvalids, fun earlier hmem => ?_, hpairs⟩⟩
      rcases List.mem_append.1 hmem with hmem | hmem
      · exact fun later hlater => hdone earlier hmem later (List.mem_cons_of_mem _ hlater)
      · obtain rfl := List.mem_singleton.1 hmem
        exact hfirst

/-- Tables that record the same mappings, in whatever order, are equal. -/
theorem eq_of_perm {other : PublishedPorts} (hrecords : Records done table)
    (hother : Records others other) (hperm : done.Perm others) : table = other := by
  have hasks (service : String) (host target : Port) :
      Asks done service host target ↔ Asks others service host target := by
    simp only [Asks, hperm.mem_iff]
  have hhosts : table.hosts = other.hosts := by
    apply SortedMap.ext_get?
    intro host
    apply Option.ext
    intro target
    simp only [hrecords.hosts, hother.hosts, hasks]
  have howners : table.owners = other.owners := by
    apply SortedMap.ext_get?
    intro target
    apply Option.ext
    intro service
    simp only [hrecords.owners, hother.owners, hasks]
  cases table
  cases other
  cases hhosts
  cases howners
  rfl

end Records

/-- If no offer was refused, all were taken up. -/
theorem accepted_eq {replies : List (Except Refusal Port)}
    (hlength : publications.length = replies.length)
    (h : ∀ reply ∈ replies, reply.isOk = true) : accepted publications replies = publications := by
  have hall : (publications.zip replies).filter (fun (_, reply) => reply.isOk) =
      publications.zip replies :=
    List.filter_eq_self.2 fun pair hmem => h pair.2 (List.of_mem_zip hmem).2
  rw [accepted, hall]
  exact List.map_fst_zip (Nat.le_of_eq hlength)

/-- There is a reply to each offer. -/
theorem length_offerAll (table : PublishedPorts) (publications : List Publication) :
    (table.offerAll publications).2.length = publications.length := by
  induction publications generalizing table with
  | nil => rfl
  | cons publication rest ih =>
    rw [offerAll, List.length_cons, List.length_cons, ih]

/-- A table that took up all offers records them. -/
theorem records_of_forall_isOk
    (h : ∀ reply ∈ (empty.offerAll publications).2, reply.isOk = true) :
    Records publications (empty.offerAll publications).1 := by
  have hrecords : Records ([] ++ accepted publications (empty.offerAll publications).2)
      (empty.offerAll publications).1 := Records.empty.offerAll
  rwa [List.nil_append, accepted_eq (length_offerAll _ _).symm h] at hrecords

/-- All offers are taken up exactly if each is valid and no two of them conflict. -/
theorem forall_isOk_offerAll_iff :
    (∀ reply ∈ (empty.offerAll publications).2, reply.isOk = true) ↔
      (∀ publication ∈ publications, publication.2.IsValid) ∧
      ∀ first ∈ publications, ∀ second ∈ publications, ¬ Conflict first second := by
  rw [Records.empty.forall_isOk_iff]
  refine and_congr_right fun _ => ⟨fun ⟨_, hpairs⟩ first hfirst second hsecond => ?_,
    fun h => ⟨nofun, List.pairwise_of_forall_mem_list h⟩⟩
  -- Conflicts have no order, so those of earlier mappings with later ones are all there are.
  have hsymm : Std.Symm fun first second : Publication => ¬ Conflict first second :=
    ⟨fun _ _ hapart hconflict => hapart hconflict.symm⟩
  exact hpairs.forall_of_forall (fun publication _ => not_conflict_self publication) hfirst hsecond

/-- Whatever mappings an empty table is asked for: one that it refuses changes nothing; no port it
records is zero, a container port belongs to the one service that it was accepted for, and the
container port behind a host port belongs to a service; all of them are accepted exactly if each is
valid and no two conflict; and then they are accepted in every order, with the same table. -/
theorem publishes_in_any_order (publications : List Publication) :
    let table := (empty.offerAll publications).1
    let replies := (empty.offerAll publications).2
    (∀ before publication refusal, (offer before publication).2 = .error refusal →
      (offer before publication).1 = before) ∧
    ((∀ host target, table.hosts.get? host = some target →
        host ≠ 0 ∧ target ≠ 0 ∧ ∃ owner, table.owners.get? target = some owner) ∧
      (∀ target owner, table.owners.get? target = some owner → target ≠ 0) ∧
      ∀ publication ∈ accepted publications replies, ∃ host target,
        publication.2.Leads host target ∧ table.hosts.get? host = some target ∧
          table.owners.get? target = some publication.1) ∧
    ((∀ reply ∈ replies, reply.isOk = true) ↔
      (∀ publication ∈ publications, publication.2.IsValid) ∧
      ∀ first ∈ publications, ∀ second ∈ publications, ¬ Conflict first second) ∧
    ((∀ reply ∈ replies, reply.isOk = true) → ∀ others, publications.Perm others →
      (∀ reply ∈ (empty.offerAll others).2, reply.isOk = true) ∧
        (empty.offerAll others).1 = table) := by
  intro table replies
  have hrecords : Records (accepted publications replies) table := Records.empty.offerAll
  refine ⟨fun before publication refusal => fst_offer_of_error, ⟨?hosts, ?owners, ?granted⟩,
    forall_isOk_offerAll_iff, ?order⟩
  case hosts =>
    intro host target hget
    obtain ⟨publication, hmem, hleads⟩ := hrecords.leads_of_hosts hget
    obtain ⟨-, hhost, -, htarget⟩ := id hleads
    exact ⟨hhost, htarget, publication.1, hrecords.owners_eq hmem hleads⟩
  case owners =>
    intro target owner hget
    obtain ⟨publication, -, -, host, -, -, -, htarget⟩ := hrecords.leads_of_owners hget
    exact htarget
  case granted =>
    intro publication hmem
    obtain ⟨host, target, hleads⟩ := isValid_of_mem_accepted hmem
    exact ⟨host, target, hleads, hrecords.hosts_eq hmem hleads, hrecords.owners_eq hmem hleads⟩
  case order =>
    intro hall others hperm
    obtain ⟨hvalid, hapart⟩ := forall_isOk_offerAll_iff.1 hall
    have hothers : ∀ reply ∈ (empty.offerAll others).2, reply.isOk = true := by
      rw [forall_isOk_offerAll_iff]
      simp only [← hperm.mem_iff]
      exact ⟨hvalid, hapart⟩
    exact ⟨hothers,
      (records_of_forall_isOk hothers).eq_of_perm (records_of_forall_isOk hall) hperm.symm⟩

/-- Two host ports of one service for one container port, and one of another service. -/
def storePublications : List Publication :=
  [("web", ⟨some "8080", some 80⟩), ("api", ⟨some "9090", some 90⟩),
    ("web", ⟨some "8081", some 80⟩)]

/-- Turned round, the publications of the store are taken up as well and lead to the same table. -/
theorem publishes_reversed_for_store :
    (∀ reply ∈ (empty.offerAll storePublications).2, reply.isOk = true) ∧
      (∀ reply ∈ (empty.offerAll storePublications.reverse).2, reply.isOk = true) ∧
      (empty.offerAll storePublications.reverse).1 = (empty.offerAll storePublications).1 := by
  have hall : ∀ reply ∈ (empty.offerAll storePublications).2, reply.isOk = true := by decide
  obtain ⟨-, -, -, horder⟩ := publishes_in_any_order storePublications
  exact ⟨hall, horder hall _ (List.reverse_perm _).symm⟩

end PublishedPorts

end ComposeCluster.Compose
