import VScale.Router.Groups
import VScale.Router.PointRouting

/-!
# What a router keeps and what it forgets

Every update replaces the shard groups, so they depend on the last records only.
The clients carry over: an address that stays keeps its client, one that is gone
has its client closed, and every client that was dialled is either in the map or
was closed once.
-/

namespace VScale
namespace Router

open Collections

/-- The clients in the map. -/
def held (r : Router) : List TabletClient :=
  r.clients.entries.map Sigma.snd

/-- The clients that were dialled are those in the map and those that were closed,
each of them once. -/
def Accounted (r : Router) : Prop :=
  ((r.held ++ r.closed).map TabletClient.conn).Perm (List.range r.dialled)

/-- The entries of old clients whose address is gone. -/
def gone
    (want : Map String Tablet)
    (entries : List (Sigma fun _ : String => TabletClient)) :
    List (Sigma fun _ : String => TabletClient) :=
  entries.filter fun entry => entry.1 ∉ want

section Dropping

variable {want : Map String Tablet} {entries : List (Sigma fun _ : String => TabletClient)}

/-- The loop over the old clients erases and closes those whose address is gone. -/
theorem foldl_dropClient
    (entries : List (Sigma fun _ : String => TabletClient))
    (r : Router) :
    entries.foldl (dropClient want) r =
      { r with
        clients :=
          ((gone want entries).map Sigma.fst).foldl (fun map key => map.erase key) r.clients
        closed := ((gone want entries).map Sigma.snd).reverse ++ r.closed } := by
  induction entries generalizing r with
  | nil => rfl
  | cons entry entries ih =>
      rw [List.foldl_cons, ih]
      by_cases known : entry.1 ∈ want
      · rw [dropClient, if_pos known, gone, gone, List.filter_cons_of_neg (by simpa using known)]
      · rw [dropClient, if_neg known, gone, gone, List.filter_cons_of_pos (by simpa using known)]
        simp

/-- Dropping clients moves them from the map to the closed ones. -/
theorem accounted_dropClients
    {r : Router}
    (accounted : r.Accounted)
    (distinct : (entries.map Sigma.fst).Nodup)
    (stored : ∀ entry ∈ entries, r.clients.lookup entry.1 = some entry.2) :
    (entries.foldl (dropClient want) r).Accounted := by
  rw [foldl_dropClient]
  have fewer : (gone want entries).Sublist entries := List.filter_sublist
  have moved := Map.entries_perm_foldl_erase (gone want entries) r.clients
    (distinct.sublist (fewer.map Sigma.fst))
    fun entry listed => stored entry (fewer.subset listed)
  refine List.Perm.trans (List.Perm.map TabletClient.conn ?_) accounted
  have clients := (moved.map Sigma.snd).append_right r.closed
  rw [List.map_append] at clients
  refine List.Perm.trans ?_ clients.symm
  unfold held
  rw [← List.append_assoc]
  apply List.Perm.append_right
  exact (List.Perm.append_left _ (List.reverse_perm _)).trans List.perm_append_comm

end Dropping

section Adding

variable (dials : String → Bool)

variable {r : Router} {known : String} {tc : TabletClient}

/-- A dialled client is accounted for. -/
theorem accounted_addClient
    (accounted : r.Accounted)
    (addr : String) :
    (addClient dials r addr).Accounted := by
  unfold addClient
  split
  · exact accounted
  · rename_i fresh
    split
    · unfold Accounted held
      rw [AList.entries_insert_of_notMem fresh, List.range_succ]
      exact (List.Perm.cons r.dialled accounted).trans (List.perm_append_singleton _ _).symm
    · exact accounted

/-- A new client changes no other one. -/
theorem lookup_addClient
    (kept : r.clients.lookup known = some tc)
    (addr : String) :
    (addClient dials r addr).clients.lookup known = some tc := by
  unfold addClient
  split
  · exact kept
  · rename_i fresh
    split
    · have different : known ≠ addr := by
        rintro rfl
        exact fresh (AList.lookup_isSome.mp (Option.isSome_iff_exists.mpr ⟨tc, kept⟩))
      rw [AList.lookup_insert_ne different]
      exact kept
    · exact kept

theorem mem_addClient
    (r : Router)
    (sought addr : String) :
    sought ∈ (addClient dials r addr).clients ↔
      sought ∈ r.clients ∨ sought = addr ∧ dials addr = true := by
  unfold addClient
  split
  · rename_i known
    constructor
    · exact Or.inl
    · rintro (present | ⟨rfl, _⟩)
      · exact present
      · exact known
  · split
    · rename_i dialled
      rw [AList.mem_insert, or_comm]
      simp [dialled]
    · rename_i refused
      simp [refused]

theorem closed_addClient
    (r : Router)
    (addr : String) :
    (addClient dials r addr).closed = r.closed := by
  unfold addClient
  split
  · rfl
  · split
    · rfl
    · rfl

theorem accounted_addClients
    (accounted : r.Accounted)
    (addrs : List String) :
    (addrs.foldl (addClient dials) r).Accounted := by
  apply List.foldlRecOn (motive := Accounted)
  · exact accounted
  · intro current holds addr _
    exact accounted_addClient dials holds addr

theorem lookup_addClients
    (kept : r.clients.lookup known = some tc)
    (addrs : List String) :
    (addrs.foldl (addClient dials) r).clients.lookup known = some tc := by
  apply List.foldlRecOn (motive := fun current : Router => current.clients.lookup known = some tc)
  · exact kept
  · intro current holds addr _
    exact lookup_addClient dials holds addr

theorem closed_addClients
    (r : Router)
    (addrs : List String) :
    (addrs.foldl (addClient dials) r).closed = r.closed := by
  apply List.foldlRecOn (motive := fun current : Router => current.closed = r.closed)
  · rfl
  · intro current holds addr _
    rw [closed_addClient]
    exact holds

/-- Clients are added for the addresses that answer. -/
theorem mem_addClients
    (r : Router)
    (sought : String)
    (addrs : List String) :
    sought ∈ (addrs.foldl (addClient dials) r).clients ↔
      sought ∈ r.clients ∨ sought ∈ addrs ∧ dials sought = true := by
  induction addrs generalizing r with
  | nil => simp
  | cons addr addrs ih =>
      rw [List.foldl_cons, ih, mem_addClient, List.mem_cons]
      constructor
      · rintro ((present | ⟨rfl, dialled⟩) | ⟨later, dialled⟩)
        · exact Or.inl present
        · exact Or.inr ⟨Or.inl rfl, dialled⟩
        · exact Or.inr ⟨Or.inr later, dialled⟩
      · rintro (present | ⟨rfl | later, dialled⟩)
        · exact Or.inl (Or.inl present)
        · exact Or.inl (Or.inr ⟨rfl, dialled⟩)
        · exact Or.inr ⟨later, dialled⟩

end Adding

/-- What an update makes of the clients. -/
structure Replaces
    (before : Router)
    (dials : String → Bool)
    (tablets : List Tablet)
    (after : Router) : Prop where
  addresses : ∀ addr, addr ∈ after.clients ↔
    addr ∈ wanted tablets ∧ (addr ∈ before.clients ∨ dials addr = true)
  stays : ∀ addr tc, addr ∈ wanted tablets → before.clients.lookup addr = some tc →
    after.clients.lookup addr = some tc
  dropped : ∀ addr tc, addr ∉ wanted tablets → before.clients.lookup addr = some tc →
    after.closed.count tc = 1
  closed : ∀ tc ∈ after.closed, tc ∈ before.closed ∨
    ∃ addr, addr ∉ wanted tablets ∧ before.clients.lookup addr = some tc

section Update

variable {r : Router} (order : SyncOrder) (dials : String → Bool) (tablets : List Tablet)

theorem visited_clients :
    ((order.dropped.visit r.clients.entries).map Sigma.fst).Nodup ∧
      ∀ entry, entry ∈ order.dropped.visit r.clients.entries ↔
        r.clients.lookup entry.1 = some entry.2 := by
  refine ⟨((order.dropped.visit_perm _).map Sigma.fst).nodup_iff.mpr r.clients.nodupKeys, ?_⟩
  intro entry
  rw [RangeOrder.mem_visit]
  exact AList.mem_lookup_iff.symm

/-- A sync keeps every client accounted for. -/
theorem accounted_sync (accounted : r.Accounted) : (r.sync order dials tablets).Accounted := by
  obtain ⟨distinct, stored⟩ := visited_clients (r := r) order
  exact accounted_addClients dials
    (accounted_dropClients accounted distinct fun entry listed => (stored entry).mp listed) _

theorem Reached.accounted
    {tablets : List Tablet}
    {r : Router}
    (reached : Reached tablets r) :
    r.Accounted := by
  induction reached with
  | start vs => exact List.Perm.refl _
  | turn cursor _ ih => exact ih
  | sync order dials tablets _ ih =>
      exact accounted_sync order dials tablets ih

/-- Accounted clients are closed at most once, and not while they are in the map. -/
theorem nodup_of_accounted (accounted : r.Accounted) : (r.held ++ r.closed).Nodup :=
  List.Nodup.of_map _ (accounted.nodup_iff.mpr List.nodup_range)

variable {tc : TabletClient}

theorem mem_held_iff : tc ∈ r.held ↔ ∃ addr, r.clients.lookup addr = some tc := by
  unfold held
  constructor
  · intro listed
    obtain ⟨entry, stored, rfl⟩ := List.mem_map.mp listed
    exact ⟨entry.1, AList.mem_lookup_iff.mpr stored⟩
  · rintro ⟨addr, found⟩
    exact List.mem_map.mpr ⟨⟨addr, tc⟩, AList.mem_lookup_iff.mp found, rfl⟩

/-- The clients that are left when the loop over the old ones is done. -/
theorem lookup_dropClients (addr : String) :
    ((order.dropped.visit r.clients.entries).foldl (dropClient (wanted tablets))
      r).clients.lookup addr =
      if addr ∈ wanted tablets then r.clients.lookup addr else none := by
  obtain ⟨_, stored⟩ := visited_clients (r := r) order
  rw [foldl_dropClient, Map.lookup_foldl_erase]
  by_cases known : addr ∈ wanted tablets
  · rw [if_pos known, if_neg]
    intro listed
    obtain ⟨entry, erased, rfl⟩ := List.mem_map.mp listed
    exact of_decide_eq_true (List.mem_filter.mp erased).2 known
  · rw [if_neg known]
    cases found : r.clients.lookup addr with
    | none => exact ite_self none
    | some tc =>
        have listed := (stored ⟨addr, tc⟩).mpr found
        rw [if_pos]
        exact List.mem_map.mpr ⟨⟨addr, tc⟩,
          List.mem_filter.mpr ⟨listed, decide_eq_true known⟩, rfl⟩

/-- A sync closes the clients that are no longer wanted. -/
theorem mem_closed_sync : tc ∈ (r.sync order dials tablets).closed ↔
      tc ∈ r.closed ∨ ∃ addr, addr ∉ wanted tablets ∧ r.clients.lookup addr = some tc := by
  obtain ⟨_, stored⟩ := visited_clients (r := r) order
  have same : (r.sync order dials tablets).closed =
      ((order.dropped.visit r.clients.entries).foldl (dropClient (wanted tablets)) r).closed :=
    closed_addClients dials _ _
  rw [same, foldl_dropClient, List.mem_append, List.mem_reverse, or_comm]
  apply or_congr_right
  constructor
  · intro listed
    obtain ⟨entry, erased, rfl⟩ := List.mem_map.mp listed
    obtain ⟨visited, foreign⟩ := List.mem_filter.mp erased
    exact ⟨entry.1, of_decide_eq_true foreign, (stored entry).mp visited⟩
  · rintro ⟨addr, foreign, found⟩
    exact List.mem_map.mpr ⟨⟨addr, tc⟩,
      List.mem_filter.mpr ⟨(stored ⟨addr, tc⟩).mpr found, decide_eq_true foreign⟩, rfl⟩

/-- A sync replaces what changed and nothing else. -/
theorem replaces_sync (accounted : r.Accounted) :
    Replaces r dials tablets (r.sync order dials tablets) where
  addresses := by
    intro addr
    have left : addr ∈ ((order.dropped.visit r.clients.entries).foldl
        (dropClient (wanted tablets)) r).clients ↔ addr ∈ wanted tablets ∧ addr ∈ r.clients := by
      rw [← AList.lookup_isSome, lookup_dropClients]
      by_cases known : addr ∈ wanted tablets
      · simp [known, AList.lookup_isSome]
      · simp [known]
    have connected := mem_addClients dials
      ((order.dropped.visit r.clients.entries).foldl (dropClient (wanted tablets)) r) addr
      (order.added.visit (wanted tablets).keys)
    rw [left, RangeOrder.mem_visit] at connected
    exact connected.trans and_or_left.symm
  stays := by
    intro addr tc known kept
    apply lookup_addClients
    rw [lookup_dropClients, if_pos known]
    exact kept
  dropped := by
    intro addr tc foreign kept
    have closed : tc ∈ (r.sync order dials tablets).closed :=
      (mem_closed_sync order dials tablets).mpr (Or.inr ⟨addr, foreign, kept⟩)
    have once := nodup_of_accounted (accounted_sync order dials tablets accounted)
    exact List.count_eq_one_of_mem once.of_append_right closed
  closed := by
    intro tc closed
    exact (mem_closed_sync order dials tablets).mp closed

end Update

/-- What holds of a router whose last update had the given records. -/
structure Represents (tablets : List Tablet) (r : Router) : Prop where
  ordered : ∀ key, r.orderedKeys.count key = if key ∈ r.shardGroups then 1 else 0
  replicas : ∀ tablet, (wanted tablets).lookup tablet.addr = some tablet →
    tablet.type ≠ "PRIMARY" →
      tablet.groupKey ∈ r.shardGroups ∧
        ∀ key group, r.shardGroups.lookup key = some group →
          group.replicas.count tablet = if key = tablet.groupKey then 1 else 0
  primaries : ∀ key group, r.shardGroups.lookup key = some group → group.primary ≠ default →
    group.primary ∈ tablets ∧ group.primary.type = "PRIMARY" ∧ group.primary.groupKey = key
  unclosed : ∀ addr tc, r.clients.lookup addr = some tc → tc ∉ r.closed
  closedOnce : r.closed.Nodup
  fresh : ∃ order, ∀ vs dials,
    r.shardGroups = ((newRouter vs).sync order dials tablets).shardGroups

/-- Every reached router represents its last list. -/
theorem Reached.represents
    {tablets : List Tablet}
    {r : Router}
    (reached : Reached tablets r) :
    Represents tablets r where
  ordered := by
    intro key
    have ordered := reached.consistent.ordered
    by_cases known : key ∈ r.shardGroups
    · rw [if_pos known]
      exact List.count_eq_one_of_mem (ordered.nodup_iff.mpr r.shardGroups.keys_nodup)
        (ordered.mem_iff.mpr known)
    · rw [if_neg known]
      apply List.count_eq_zero_of_not_mem
      intro listed
      exact known (ordered.mem_iff.mp listed)
  replicas := by
    intro tablet recorded secondary
    obtain ⟨order, groups⟩ := reached.groups
    rw [groups]
    constructor
    · have listed : tablet ∈ recordsOf order.wanted (wanted tablets) tablet.groupKey :=
        mem_recordsOf_iff.mpr ⟨recorded, rfl⟩
      rw [← AList.lookup_isSome, newGroups_lookup, Option.isSome_map, groupOf, Option.isSome_map,
        List.isSome_head?]
      simpa using List.ne_nil_of_mem listed
    · intro key group known
      split
      · rename_i own
        exact List.count_eq_one_of_mem (nodup_replicas known)
          ((mem_replicas_iff known).mpr ⟨recorded, own.symm, secondary⟩)
      · rename_i foreign
        apply List.count_eq_zero_of_not_mem
        intro listed
        exact foreign ((mem_replicas_iff known).mp listed).2.1.symm
  primaries := by
    intro key group known present
    obtain ⟨order, groups⟩ := reached.groups
    rw [groups] at known
    rcases primary_of_lookup known with missing | ⟨recorded, belongs, isPrimary⟩
    · exact absurd missing present
    · exact ⟨mem_of_wanted recorded, isPrimary, belongs⟩
  unclosed := by
    intro addr tc kept closed
    have once := nodup_of_accounted reached.accounted
    exact List.disjoint_of_nodup_append once (mem_held_iff.mpr ⟨addr, kept⟩) closed
  closedOnce := (nodup_of_accounted reached.accounted).of_append_right
  fresh := by
    obtain ⟨order, groups⟩ := reached.groups
    exact ⟨order, fun _ _ => groups⟩

/-- After every sequence of updates the router represents the last records, and
the next update keeps, opens and closes exactly the clients it should. -/
theorem router_represents_last_update
    {tablets : List Tablet}
    {r : Router}
    (reached : Reached tablets r) :
    Represents tablets r ∧
      ∀ (order : SyncOrder) (dials : String → Bool) (next : List Tablet),
        Replaces r dials next (r.sync order dials next) :=
  ⟨reached.represents, fun order dials next =>
    replaces_sync order dials next reached.accounted⟩

/-- The address of the second shard is replaced by a new one. -/
def movedShard : List Tablet :=
  [{ keyspace := "main", shard := "shard-0", type := "PRIMARY", addr := "a:1"
     keyRangeStart := 0, keyRangeEnd := 5000 },
    { keyspace := "main", shard := "shard-1", type := "PRIMARY", addr := "d:1"
      keyRangeStart := 5000, keyRangeEnd := 10000 }]

theorem movedShard_replaces_one_client :
    Represents movedShard (twoShardRouter.sync .stored (fun _ => true) movedShard) ∧
      (twoShardRouter.sync .stored (fun _ => true) movedShard).closed = [⟨0, "b:1"⟩] ∧
      (twoShardRouter.sync .stored (fun _ => true) movedShard).clients.lookup "a:1" =
        some ⟨1, "a:1"⟩ := by
  have reached : Reached movedShard (twoShardRouter.sync .stored (fun _ => true) movedShard) :=
    .sync _ _ _ twoShardRouter_reached
  have replaced := (router_represents_last_update twoShardRouter_reached).2 .stored
    (fun _ => true) movedShard
  refine ⟨(router_represents_last_update reached).1, by decide, ?_⟩
  exact replaced.stays "a:1" ⟨1, "a:1"⟩ (by decide) (by decide)

end Router
end VScale
