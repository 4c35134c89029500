import ForgeBridge.Proofs.CachedAnswers
import ForgeBridge.Proofs.SerialFetches
import Mathlib.Data.Finset.Card

/-!
# What the cache keeps

A key is used when a result is stored under it, and when it is served from the cache (`uses`). A happening
uses one key, or drops one whose entry is too old, or leaves the cache as it is (`rearranges`). So the keys
of a cache are in the order of their last uses, the latest in front, and there are never more of them than
fit in (`inOrder_run`).

Therefore the key that has to go from a full cache is always the one whose last use is the longest ago, and
a key is still there as long as fewer others have been used since than fit in
(`keeps_recently_used`).
-/

namespace ForgeBridge.Tracker

/-! ## The keys of a cache -/

namespace Cache

variable {c : Cache} {key : String}

/-- The keys of a cache, the one used last in front. -/
def keys (c : Cache) : List String := c.entries.map (·.1)

theorem keys_erase (c : Cache) (key : String) : (c.erase key).keys = c.keys.filter (· ≠ key) := by
  rw [keys, keys, erase, List.filter_map]
  rfl

theorem keys_put (c : Cache) (key : String) (e : Entry) :
    (c.put key e).keys = key :: (c.keys.filter (· ≠ key)).take (capacity - 1) := by
  rw [← keys_erase, keys, put, List.map_cons, List.map_take, keys]

theorem mem_keys : key ∈ c.keys ↔ ∃ e, c.get? key = some e := by
  rw [keys, get?]
  constructor
  · intro hmem
    obtain ⟨⟨k, e⟩, he, rfl⟩ := List.mem_map.1 hmem
    cases hlook : c.entries.lookup k with
    | some e => exact ⟨e, rfl⟩
    | none => simpa using List.lookup_eq_none_iff.1 hlook _ he
  · rintro ⟨e, he⟩
    obtain ⟨l₁, l₂, heq, -⟩ := List.lookup_eq_some_iff.1 he
    rw [heq]
    simp

end Cache

/-! ## Uses of keys -/

/-- The uses of other keys since the last use of a key, the latest in front. -/
def since (uses : List String) (key : String) : List String := uses.reverse.takeWhile (· ≠ key)

section
variable {us : List String} {key other : String}

theorem since_other (us : List String) (h : other ≠ key) : since (us ++ [other]) key = other :: since us key := by
  simp [since, h]

theorem card_since_le (h : other ≠ key) :
    (since us key).toFinset.card ≤ (since (us ++ [other]) key).toFinset.card := by
  rw [since_other us h, List.toFinset_cons]
  exact Finset.card_le_card (Finset.subset_insert ..)

theorem ne_of_mem_since (h : other ∈ since us key) : other ≠ key := by
  simpa using List.all_eq_true.1 List.all_takeWhile other h

end

/-- Keys in the order of their last uses, no more than fit in. -/
structure InOrder (keys us : List String) : Prop where
  length : keys.length ≤ Cache.capacity
  pairwise : keys.Pairwise fun newer older => newer ∈ since us older

namespace InOrder

variable {keys us : List String} {key k : String}

theorem nodup (h : InOrder keys us) : keys.Nodup :=
  h.pairwise.imp fun hmem => ne_of_mem_since hmem

theorem sublist {some : List String} (h : InOrder keys us) (hsub : some.Sublist keys) : InOrder some us :=
  ⟨hsub.length_le.trans h.length, h.pairwise.sublist hsub⟩

/-- The keys that stay when another one is used. -/
theorem others (h : InOrder keys us) (k : String) :
    InOrder ((keys.filter (· ≠ k)).take (Cache.capacity - 1)) us :=
  h.sublist ((List.take_sublist ..).trans List.filter_sublist)

theorem use (h : InOrder keys us) (k : String) :
    InOrder (k :: (keys.filter (· ≠ k)).take (Cache.capacity - 1)) (us ++ [k]) := by
  have hne : ∀ key ∈ (keys.filter (· ≠ k)).take (Cache.capacity - 1), key ≠ k := by
    intro key hmem
    simpa using (List.mem_filter.1 (List.mem_of_mem_take hmem)).2
  refine ⟨?_, List.pairwise_cons.2 ⟨fun key hmem => ?_, ?_⟩⟩
  · have hpos : 0 < Cache.capacity := by decide
    rw [List.length_cons, List.length_take]
    omega
  · rw [since_other us (hne key hmem).symm]
    exact .head _
  · refine (h.others k).pairwise.imp_of_mem fun {newer older} _ holder hmem => ?_
    rw [since_other us (hne older holder).symm]
    exact .tail _ hmem

/-- A key stays when another one is used, as long as fewer others than fit in have been used since. -/
theorem mem_others (h : InOrder keys us) (hmem : key ∈ keys) (hne : key ≠ k)
    (hfew : (since (us ++ [k]) key).toFinset.card < Cache.capacity) :
    key ∈ (keys.filter (· ≠ k)).take (Cache.capacity - 1) := by
  have hin : key ∈ keys.filter (· ≠ k) := List.mem_filter.2 ⟨hmem, by simpa using hne⟩
  obtain ⟨front, back, hsplit⟩ := List.append_of_mem hin
  have hrest := h.sublist (List.filter_sublist : (keys.filter (· ≠ k)).Sublist keys)
  rw [hsplit] at hrest
  -- all that stand in front of the key have been used since, and so has the key that is used now
  have hsince : ∀ a ∈ front, a ∈ since us key := fun a ha =>
    (List.pairwise_append.1 hrest.pairwise).2.2 a ha key (.head _)
  have hk : k ∉ front := by
    intro hk
    have hkin : k ∈ keys.filter (· ≠ k) := hsplit ▸ List.mem_append_left _ hk
    simpa using (List.mem_filter.1 hkin).2
  have hsub : insert k front.toFinset ⊆ (since (us ++ [k]) key).toFinset := by
    rw [since_other us hne.symm, List.toFinset_cons]
    refine Finset.insert_subset_insert k fun a ha => ?_
    exact List.mem_toFinset.2 (hsince a (List.mem_toFinset.1 ha))
  have hfront : front.Nodup := (List.nodup_append.1 hrest.nodup).1
  have hcard : front.length + 1 ≤ (since (us ++ [k]) key).toFinset.card := by
    rw [← List.toFinset_card_of_nodup hfront, ← Finset.card_insert_of_notMem (by simpa using hk)]
    exact Finset.card_le_card hsub
  rw [hsplit, List.take_append, List.mem_append]
  right
  obtain ⟨n, hn⟩ : ∃ n, Cache.capacity - 1 - front.length = n + 1 := ⟨Cache.capacity - 2 - front.length, by omega⟩
  rw [hn, List.take_succ_cons]
  exact .head _

theorem mem_use (h : InOrder keys us) (hmem : key ≠ k → key ∈ keys)
    (hfew : (since (us ++ [k]) key).toFinset.card < Cache.capacity) :
    key ∈ k :: (keys.filter (· ≠ k)).take (Cache.capacity - 1) := by
  by_cases hkey : key = k
  · exact hkey ▸ .head _
  · exact .tail _ (h.mem_others (hmem hkey) hkey hfew)

/-- With room for one more, no key goes. -/
theorem mem_of_room (h : InOrder keys us) (hroom : k ∈ keys ∨ keys.length < Cache.capacity) (hmem : key ∈ keys) :
    key ∈ k :: (keys.filter (· ≠ k)).take (Cache.capacity - 1) := by
  have hlen : (keys.filter (· ≠ k)).length ≤ Cache.capacity - 1 := by
    rcases hroom with hk | hlt
    · have hless : (keys.filter (· ≠ k)).length < keys.length :=
        List.length_filter_lt_length_iff_exists.2 ⟨k, hk, by simp⟩
      have hfits := h.length
      omega
    · have hle : (keys.filter (· ≠ k)).length ≤ keys.length := List.length_filter_le ..
      omega
  rw [List.take_of_length_le hlen]
  by_cases hkey : key = k
  · exact hkey ▸ .head _
  · exact .tail _ (List.mem_filter.2 ⟨hmem, by simpa using hkey⟩)

/-- From a full cache the last key goes. All others have been used since its last use. -/
theorem others_full (h : InOrder keys us) (hk : k ∉ keys) (hfull : keys.length = Cache.capacity) :
    ∃ oldest, keys = (keys.filter (· ≠ k)).take (Cache.capacity - 1) ++ [oldest] ∧
      ∀ key ∈ (keys.filter (· ≠ k)).take (Cache.capacity - 1), key ∈ since us oldest := by
  have hall : keys.filter (· ≠ k) = keys := by
    rw [List.filter_eq_self]
    intro key hmem
    simpa using ne_of_mem_of_not_mem hmem hk
  rw [hall]
  rcases keys.eq_nil_or_concat with hnil | ⟨kept, oldest, hkeys⟩
  · rw [hnil] at hfull
    cases hfull
  · rw [List.concat_eq_append] at hkeys
    have hkept : keys.take (Cache.capacity - 1) = kept := by
      have hlen : Cache.capacity - 1 = kept.length := by
        rw [← hfull, hkeys, List.length_append]
        rfl
      rw [hlen, hkeys, List.take_left]
    rw [hkept]
    refine ⟨oldest, hkeys, fun key hmem => ?_⟩
    rw [hkeys] at h
    exact (List.pairwise_append.1 h.pairwise).2.2 key hmem oldest (.head _)

end InOrder

namespace Session

variable {s : Session} {h : Happening} {hs : List Happening} {id : Nat} {r : Reference} {key : String}

/-- The key that is used in a happening: it is served, or a result is stored under it. -/
def uses (s : Session) (h : Happening) : Option String :=
  match s.looks h with
  | some (_, r) => if (s.client.cache.serve s.now (Client.key r)).1.isSome then some (Client.key r) else none
  | none => (s.stores h).map (Client.key ·.reference)

/-- The keys that are used in a run. -/
def used (s : Session) : List Happening → List String
  | [] => []
  | h :: hs => (s.uses h).toList ++ (s.next h).used hs

theorem used_concat (s : Session) (hs : List Happening) (h : Happening) :
    s.used (hs ++ [h]) = s.used hs ++ ((s.run hs).uses h).toList := by
  induction hs generalizing s with
  | nil => simp [used, run]
  | cons k hs ih => simp only [List.cons_append, used, ih, run, List.foldl_cons, List.append_assoc]

/-- What a happening does to the cache. -/
inductive Rearranges (s : Session) (h : Happening) : Prop where
  | quiet (uses : s.uses h = none) (cache : (s.next h).client.cache = s.client.cache)
  | served (id : Nat) (r : Reference) (looks : s.looks h = some (id, r)) (uses : s.uses h = some (Client.key r))
    (mem : Client.key r ∈ s.client.cache.keys)
    (keys : (s.next h).client.cache.keys =
      Client.key r :: (s.client.cache.keys.filter (· ≠ Client.key r)).take (Cache.capacity - 1))
  | stored (x : Stored) (stores : s.stores h = some x) (uses : s.uses h = some (Client.key x.reference))
    (keys : (s.next h).client.cache.keys =
      Client.key x.reference ::
        (s.client.cache.keys.filter (· ≠ Client.key x.reference)).take (Cache.capacity - 1))
  | dropped (id : Nat) (r : Reference) (e : Entry) (looks : s.looks h = some (id, r)) (uses : s.uses h = none)
    (entry : s.client.cache.get? (Client.key r) = some e) (expired : e.storedAt + 300 * second < s.now)
    (cache : (s.next h).client.cache = s.client.cache.erase (Client.key r))

/-- A happening that looks into the cache stores nothing. -/
theorem stores_of_looks (hl : s.looks h = some (id, r)) : s.stores h = none := by
  cases h with
  | body i content => cases hl
  | _ => rfl

theorem uses_of_stores {x : Stored} (hx : s.stores h = some x) : s.uses h = some (Client.key x.reference) := by
  cases hl : s.looks h with
  | none => simp [uses, hl, hx]
  | some l => cases (stores_of_looks hl).symm.trans hx

theorem rearranges (s : Session) (h : Happening) : s.Rearranges h := by
  have hcache := next_cache s h
  rcases hl : s.looks h with _ | ⟨id, r⟩
  · rcases hx : s.stores h with _ | x
    · exact .quiet (by simp [uses, hl, hx]) (by simpa only [hl, hx] using hcache)
    · simp only [hl, hx] at hcache
      exact .stored x hx (uses_of_stores hx) (by rw [hcache, Cache.store, Cache.keys_put])
  · simp only [hl, Cache.serve] at hcache
    cases he : s.client.cache.get? (Client.key r) with
    | none =>
      simp only [he] at hcache
      exact .quiet (by simp [uses, hl, Cache.serve, he]) hcache
    | some e =>
      simp only [he] at hcache
      by_cases hold : Cache.isExpired s.now e = true
      · rw [if_pos hold] at hcache
        exact .dropped id r e hl (by simp [uses, hl, Cache.serve, he, hold]) he (Cache.isExpired_iff.1 hold) hcache
      · rw [if_neg hold] at hcache
        exact .served id r hl (by simp [uses, hl, Cache.serve, he, hold]) (Cache.mem_keys.2 ⟨e, he⟩)
          (by rw [hcache, Cache.keys_put])

theorem inOrder_next {us : List String} (hord : InOrder s.client.cache.keys us) (h : Happening) :
    InOrder (s.next h).client.cache.keys (us ++ (s.uses h).toList) := by
  cases s.rearranges h with
  | quiet uses cache =>
    rw [uses, cache]
    simpa using hord
  | served id r looks uses mem keys =>
    rw [uses, keys]
    exact hord.use _
  | stored x stores uses keys =>
    rw [uses, keys]
    exact hord.use _
  | dropped id r e looks uses entry expired cache =>
    rw [uses, cache, Cache.keys_erase]
    simpa using hord.sublist List.filter_sublist

/-- In every run, the keys of the cache are in the order of their last uses. -/
theorem inOrder_run (base : String) (token : Option String) (hs : List Happening) :
    InOrder ((start base token).run hs).client.cache.keys ((start base token).used hs) := by
  induction hs using List.reverseRecOn with
  | nil => exact ⟨Nat.zero_le _, .nil⟩
  | append_singleton hs h ih =>
    rw [run_concat, used_concat]
    exact inOrder_next ih h

/-! ## What stays -/

/-- The result that was stored last under a key. -/
def lastUnder (results : List Stored) (key : String) : Option Stored :=
  results.reverse.find? fun x => Client.key x.reference = key

theorem stored_append (s : Session) (hs hs' : List Happening) :
    s.stored (hs ++ hs') = s.stored hs ++ (s.run hs).stored hs' := by
  induction hs generalizing s with
  | nil => rfl
  | cons h hs ih => simp only [List.cons_append, stored, ih, run, List.foldl_cons, List.append_assoc]

/-- An entry of the cache is the last result that was stored under its key. -/
theorem lastUnder_of_entry (base : String) (token : Option String) {e : Entry}
    (he : ((start base token).run hs).client.cache.get? key = some e) :
    ∃ x, lastUnder ((start base token).stored hs) key = some x ∧ e = ⟨x.summary, x.time⟩ := by
  obtain ⟨front, h, back, x, rfl, hx, hkey, rfl, hlast⟩ := entry_of_run rfl he
  refine ⟨x, ?_, rfl⟩
  have hnone : (((start base token).run front).next h |>.stored back).reverse.find?
      (fun x => Client.key x.reference = key) = none := by
    simpa using hlast
  rw [stored_append, stored, hx, lastUnder, List.reverse_append, List.reverse_append, List.find?_append,
    List.find?_append, hnone]
  simp [hkey]

/-- Only a result that is stored under a key is another last one. -/
theorem lastUnder_concat (hne : ∀ x, (s.run hs).stores h = some x → Client.key x.reference ≠ key) :
    lastUnder (s.stored (hs ++ [h])) key = lastUnder (s.stored hs) key := by
  rw [stored_concat]
  cases hx : (s.run hs).stores h with
  | none => simp
  | some x => simp [lastUnder, hne x hx]

/-- A key stays in the cache while its last result is not too old, and fewer others than fit in have been
used since its last use. -/
theorem mem_keys_of_run (base : String) (token : Option String) {x : Stored}
    (hx : lastUnder ((start base token).stored hs) key = some x)
    (hfresh : ((start base token).run hs).now ≤ x.time + 300 * second)
    (hfew : (since ((start base token).used hs) key).toFinset.card < Cache.capacity) :
    key ∈ ((start base token).run hs).client.cache.keys := by
  induction hs using List.reverseRecOn with
  | nil => cases hx
  | append_singleton hs h ih =>
    rw [run_concat] at hfresh ⊢
    rw [used_concat] at hfew
    have hord := inOrder_run base token hs
    have htime := Nat.le_trans (now_le_next ((start base token).run hs) h) hfresh
    cases ((start base token).run hs).rearranges h with
    | quiet uses cache =>
      rw [cache]
      rw [uses, Option.toList_none, List.append_nil] at hfew
      rw [lastUnder_concat fun y hy => by cases uses.symm.trans (uses_of_stores hy)] at hx
      exact ih hx htime hfew
    | served id r looks uses mem keys =>
      rw [keys]
      rw [uses, Option.toList_some] at hfew
      rw [lastUnder_concat fun y hy => by cases (stores_of_looks looks).symm.trans hy] at hx
      exact hord.mem_use (fun hkey => ih hx htime (Nat.lt_of_le_of_lt (card_since_le hkey.symm) hfew)) hfew
    | stored y stores uses keys =>
      rw [keys]
      rw [uses, Option.toList_some] at hfew
      refine hord.mem_use (fun hkey => ?_) hfew
      rw [lastUnder_concat fun z hz => by cases stores.symm.trans hz; exact hkey.symm] at hx
      exact ih hx htime (Nat.lt_of_le_of_lt (card_since_le hkey.symm) hfew)
    | dropped id r e looks uses entry expired cache =>
      rw [uses, Option.toList_none, List.append_nil] at hfew
      rw [lastUnder_concat fun y hy => by cases (stores_of_looks looks).symm.trans hy] at hx
      rw [cache, Cache.keys_erase]
      refine List.mem_filter.2 ⟨ih hx htime hfew, ?_⟩
      -- the key that is dropped is another one: its last result is too old
      rw [decide_eq_true_iff]
      rintro rfl
      obtain ⟨y, hy, rfl⟩ := lastUnder_of_entry base token entry
      cases hx.symm.trans hy
      exact absurd htime (Nat.not_le.2 expired)

/-- A fetch of a key that is in the cache is answered with the last result under the key, while that is not
too old. -/
theorem answer_of_mem_keys (base : String) (token : Option String) {x : Stored}
    (hl : ((start base token).run hs).looks h = some (id, r))
    (hx : lastUnder ((start base token).stored hs) (Client.key r) = some x)
    (hfresh : ((start base token).run hs).now ≤ x.time + 300 * second)
    (hmem : Client.key r ∈ ((start base token).run hs).client.cache.keys) :
    ((start base token).run hs).answer? h = some (id, .resolved x.summary) ∧
      ((start base token).run hs).sends h = none := by
  obtain ⟨e, he⟩ := Cache.mem_keys.1 hmem
  obtain ⟨y, hy, rfl⟩ := lastUnder_of_entry base token he
  cases hx.symm.trans hy
  have hnew : ¬Cache.isExpired ((start base token).run hs).now ⟨x.summary, x.time⟩ = true := by
    rw [Cache.isExpired_iff]
    exact Nat.not_lt.2 hfresh
  have hhit := step_hit hl (by rw [Cache.serve, he]; exact congrArg Prod.fst (if_neg hnew))
  exact ⟨congrArg Prod.snd hhit.1, hhit.2⟩

/-- In every run the cache has no more entries than fit in, and none twice. A fetch within five minutes of the
last result under its key is answered with that result, if fewer other keys than fit in have been used since
the key was. When a result under a new key comes into a full cache, the key goes whose last use is the longest
ago: all others have been used since. When a fetch finds an entry that is too old, this one goes, and the others
stay. In no other way does a key go. -/
theorem keeps_recently_used (base : String) (token : Option String) (hs : List Happening) :
    let s₀ := start base token
    let s := s₀.run hs
    let keys := s.client.cache.keys
    (keys.length ≤ 1024 ∧ keys.Nodup) ∧
    (∀ h id r x, s.looks h = some (id, r) → lastUnder (s₀.stored hs) (Client.key r) = some x →
      s.now ≤ x.time + 300 * second → (since (s₀.used hs) (Client.key r)).toFinset.card < 1024 →
      s.answer? h = some (id, .resolved x.summary) ∧ s.sends h = none) ∧
    (∀ h x, s.stores h = some x → Client.key x.reference ∉ keys → keys.length = 1024 →
      ∃ kept oldest, keys = kept ++ [oldest] ∧ (s.next h).client.cache.keys = Client.key x.reference :: kept ∧
        ∀ key ∈ kept, key ∈ since (s₀.used hs) oldest) ∧
    (∀ h id r e, s.looks h = some (id, r) → s.client.cache.get? (Client.key r) = some e →
      e.storedAt + 300 * second < s.now → ∀ key,
        (s.next h).client.cache.get? key = if key = Client.key r then none else s.client.cache.get? key) ∧
    ∀ h key, key ∈ keys → key ∉ (s.next h).client.cache.keys →
      (∃ id r e, s.looks h = some (id, r) ∧ Client.key r = key ∧ s.client.cache.get? key = some e ∧
        e.storedAt + 300 * second < s.now) ∨
      ∃ x, s.stores h = some x ∧ Client.key x.reference ∉ keys ∧ keys.length = 1024 := by
  intro s₀ s keys
  have hord : InOrder keys (s₀.used hs) := inOrder_run base token hs
  refine ⟨⟨hord.length, hord.nodup⟩, ?_, ?_, ?_, ?_⟩
  · intro h id r x hl hx hfresh hfew
    exact answer_of_mem_keys base token hl hx hfresh (mem_keys_of_run base token hx hfresh hfew)
  · intro h x hx hnew hfull
    obtain ⟨oldest, hsplit, holdest⟩ := hord.others_full hnew hfull
    refine ⟨_, oldest, hsplit, ?_, holdest⟩
    cases s.rearranges h with
    | stored y stores uses keys =>
      cases hx.symm.trans stores
      exact keys
    | quiet uses cache => cases uses.symm.trans (uses_of_stores hx)
    | served id r looks uses mem keys => cases (stores_of_looks looks).symm.trans hx
    | dropped id r e looks uses entry expired cache => cases (stores_of_looks looks).symm.trans hx
  · intro h id r e hl he hold key
    have hcache : (s.next h).client.cache = s.client.cache.erase (Client.key r) := by
      rw [next_cache, hl]
      simp only [Cache.serve, he, if_pos (Cache.isExpired_iff.2 hold)]
    rw [hcache, Cache.get?_erase]
  · intro h key hmem hgone
    cases s.rearranges h with
    | quiet uses cache => exact absurd (cache ▸ hmem) hgone
    | served id r looks uses mem keys => exact absurd (keys ▸ hord.mem_of_room (.inl mem) hmem) hgone
    | stored x stores uses keys =>
      have hroom : ¬(Client.key x.reference ∈ s.client.cache.keys ∨ s.client.cache.keys.length < Cache.capacity) :=
        fun hroom => hgone (keys ▸ hord.mem_of_room hroom hmem)
      rw [not_or, Nat.not_lt] at hroom
      exact .inr ⟨x, stores, hroom.1, Nat.le_antisymm hord.length hroom.2⟩
    | dropped id r e looks uses entry expired cache =>
      obtain rfl : key = Client.key r := by
        by_contra hkey
        rw [cache, Cache.keys_erase] at hgone
        exact hgone (List.mem_filter.2 ⟨hmem, by simpa using hkey⟩)
      exact .inl ⟨id, r, e, looks, rfl, entry, expired⟩

/-! ## A full cache -/

/-- All that happens in a fetch of an issue that the server knows. -/
def fetched (r : Reference) : List Happening := [.fetch 0 r, .head 0 200, .body 0 (some page)]

/-- The first issues are fetched one after the other. -/
def filling (n : Nat) : List Happening := (List.range n).flatMap fun i => fetched (issue i)

section
variable {c : Client} {now : Nat}

/-- A fetch that the cache cannot answer, up to its body. -/
theorem run_announced (hb : c.breaker = .closed) (hq : (c.request? r).isSome = true)
    (hmiss : c.cache.get? (Client.key r) = none) :
    (⟨c, now, []⟩ : Session).run [.fetch 0 r, .head 0 200] = ⟨c, now, [(0, ⟨r, .reading⟩)]⟩ := by
  obtain ⟨q, hq⟩ := Option.isSome_iff_exists.1 hq
  have hserve : c.cache.serve now (Client.key r) = (none, c.cache) := by rw [Cache.serve, hmiss]
  have hsent : (⟨c, now, []⟩ : Session).next (.fetch 0 r) = ⟨c, now, [(0, ⟨r, .waiting⟩)]⟩ := by
    rw [next, fetch_sent hserve (by rw [hb]; rfl) hq, Breaker.call_granted_closed (by rw [hb]; rfl)]
  change ((⟨c, now, []⟩ : Session).next (.fetch 0 r)).next (.head 0 200) = _
  rw [hsent]
  have hclosed : { c with breaker := Breaker.closed } = c := by rw [← hb]
  simp [next, step, flight?, Client.takeHead, Net.isSuccess, Client.reportSuccess, Breaker.succeed, advance, land,
    hclosed]

theorem summaryOf_page : Client.summaryOf page = .ok ⟨"https://h/o/r/9", "Crash"⟩ := by decide +kernel

/-- The body of such a fetch is stored. -/
theorem stores_page : (⟨c, now, [(0, ⟨r, .reading⟩)]⟩ : Session).stores (.body 0 (some page)) =
    some ⟨r, ⟨"https://h/o/r/9", "Crash"⟩, now⟩ := by
  simp [stores, flight?, summaryOf_page]

theorem next_page : (⟨c, now, [(0, ⟨r, .reading⟩)]⟩ : Session).next (.body 0 (some page)) =
    ⟨{ c with cache := c.cache.store now (Client.key r) ⟨"https://h/o/r/9", "Crash"⟩ }, now, []⟩ := by
  simp [next, step, flight?, Client.takeBody, summaryOf_page, land]

end

/-- The keys of the first issues, the last of them in front. -/
def firstKeys (n : Nat) : List String := (List.range n).reverse.map fun i => Client.key (issue i)

theorem key_issue_inj {i j : Nat} (hi : i < UInt64.size) (hj : j < UInt64.size)
    (h : Client.key (issue i) = Client.key (issue j)) : i = j := by
  have hplain : (issue j).IsPlain := by
    have hnames : '/' ∉ "o".toList ∧ '/' ∉ "r".toList := by decide
    exact hnames
  have hnum := congrArg (fun r : Reference => r.number.toNat) (Client.eq_of_key hplain h)
  simpa [issue, UInt64.toNat_ofNat', Nat.mod_eq_of_lt hi, Nat.mod_eq_of_lt hj] using hnum

theorem key_notMem_firstKeys {n : Nat} (hn : n ≤ Cache.capacity) : Client.key (issue n) ∉ firstKeys n := by
  intro hmem
  obtain ⟨i, hi, hkey⟩ := List.mem_map.1 hmem
  have hlt : i < n := by simpa using hi
  have hsize : Cache.capacity < UInt64.size := by decide
  have heq := key_issue_inj (by omega) (by omega) hkey
  omega

/-- A client of a server, with some cache. -/
def withCache (cache : Cache) : Client := { (start "http://h" none).client with cache := cache }

theorem utf8ByteSize_number (n : UInt64) : (toString n.toNat).utf8ByteSize ≤ 20 := by
  have htext : (toString n.toNat).toList = Nat.toDigits 10 n.toNat := by
    rw [Nat.toString_eq_ofList_toDigits, String.toList_ofList]
  rw [Text.utf8ByteSize_of_ascii, htext, Nat.length_toDigits_le_iff (by decide) (by decide)]
  · exact Nat.lt_trans n.toNat_lt (by decide)
  · intro c hc
    rw [htext] at hc
    have hdigit := (Char.isDigit_iff_toNat.1 (Nat.isDigit_of_mem_toDigits (by decide) (by decide) hc)).2
    exact Nat.lt_of_le_of_lt hdigit (by decide)

/-- The addresses of these issues are short. -/
theorem not_isTooLong_issue (n : Nat) : ¬(start "http://h" none).client.IsTooLong (issue n) := by
  have hurl : Net.webUrl? "http://h" =
      some ⟨"http", "", none, some (.domain "h"), none, .segments [[]], none, none⟩ := by decide +kernel
  have hproper (n : Nat) : (issue n).IsProper := by
    have hnames : Reference.IsName "o".toList ∧ Reference.IsName "r".toList := by decide
    exact hnames
  have hbase : Client.trimSlashes "http://h" = "http://h" := by decide +kernel
  obtain ⟨size, hsize⟩ := Client.exists_size hurl rfl rfl
  rw [hbase] at hsize
  -- what leads to the server is as long for all issues as for the first one
  have hsample : Net.webUrl? ("http://h" ++ ("/repos" ++ Client.issuePath (issue 0))) =
      some ⟨"http", "", none, some (.domain "h"), none, .segments (Client.issueSegments (issue 0)), none, none⟩ := by
    decide +kernel
  have height : size = 8 := by
    have hshort := hsize (issue 0) (hproper 0) _ hsample
    have hbytes : (Net.withoutUser ⟨"http", "", none, some (.domain "h"), none,
        .segments (Client.issueSegments (issue 0)), none, none⟩).display.utf8ByteSize = 27 := by decide +kernel
    have hpath : ("/repos" ++ Client.issuePath (issue 0)).utf8ByteSize = 19 := by decide +kernel
    omega
  rintro ⟨u, hu, hlong⟩
  rw [Client.urlText_eq] at hu
  have hparts : "/repos".utf8ByteSize = 6 ∧ "/".utf8ByteSize = 1 ∧ (issue n).owner.utf8ByteSize = 1 ∧
      (issue n).repo.utf8ByteSize = 1 ∧ "/issues/".utf8ByteSize = 8 := ⟨rfl, rfl, rfl, rfl, rfl⟩
  have hnumber := utf8ByteSize_number (issue n).number
  rw [hsize (issue n) (hproper n) u hu, Client.issuePath] at hlong
  simp only [String.utf8ByteSize_append, hparts] at hlong
  omega

theorem request?_withCache (cache : Cache) (n : Nat) : ((withCache cache).request? (issue n)).isSome = true := by
  have hserver : IsServer "http://h" := by decide +kernel
  have hbase : (withCache cache).apiBase = (Client.new "http://h" none).value.apiBase := rfl
  have htoken : (withCache cache).token = (Client.new "http://h" none).value.token := rfl
  have hsame : (withCache cache).request? (issue n) = (Client.new "http://h" none).value.request? (issue n) := by
    simp only [Client.request?, Client.urlText, hbase, htoken]
  have hnone : ∀ t ∈ (none : Option String), Net.isHeaderValue t = true := by rintro t ⟨⟩
  rw [hsame]
  exact (Client.request?_isSome_iff hserver hnone (issue n)).2.2 (not_isTooLong_issue n)

/-- The next issue after the first ones is fetched, up to its body. -/
theorem run_filling_announced {n : Nat} (hn : n ≤ Cache.capacity) {cache : Cache} (hkeys : cache.keys = firstKeys n)
    (hrun : (start "http://h" none).run (filling n) = ⟨withCache cache, 0, []⟩) :
    (start "http://h" none).run (filling n ++ [.fetch 0 (issue n), .head 0 200]) =
      ⟨withCache cache, 0, [(0, ⟨issue n, .reading⟩)]⟩ := by
  have hmiss : cache.get? (Client.key (issue n)) = none := by
    rw [Option.eq_none_iff_forall_ne_some]
    intro e he
    exact key_notMem_firstKeys hn (hkeys ▸ Cache.mem_keys.2 ⟨e, he⟩)
  rw [run_append, hrun]
  exact run_announced rfl (request?_withCache cache n) hmiss

/-- As long as they fit in, the first issues are all in the cache. -/
theorem run_filling {n : Nat} (hn : n ≤ Cache.capacity) :
    ∃ cache : Cache, cache.keys = firstKeys n ∧
      (start "http://h" none).run (filling n) = ⟨withCache cache, 0, []⟩ := by
  induction n with
  | zero => exact ⟨.empty, rfl, rfl⟩
  | succ n ih =>
    obtain ⟨cache, hkeys, hrun⟩ := ih (Nat.le_of_succ_le hn)
    have hbefore := run_filling_announced (Nat.le_of_succ_le hn) hkeys hrun
    refine ⟨cache.store 0 (Client.key (issue n)) ⟨"https://h/o/r/9", "Crash"⟩, ?_, ?_⟩
    rotate_left
    · have hsplit : filling (n + 1) = (filling n ++ [.fetch 0 (issue n), .head 0 200]) ++ [.body 0 (some page)] := by
        simp [filling, List.range_succ, fetched]
      rw [hsplit, run_concat, hbefore, next_page]
      rfl
    · have hall : (firstKeys n).filter (· ≠ Client.key (issue n)) = firstKeys n := by
        rw [List.filter_eq_self]
        intro key hmem
        simpa using ne_of_mem_of_not_mem hmem (key_notMem_firstKeys (Nat.le_of_succ_le hn))
      have hlen : (firstKeys n).length ≤ Cache.capacity - 1 := by
        simpa [firstKeys] using Nat.le_pred_of_lt hn
      rw [Cache.store, Cache.keys_put]
      change _ :: (cache.keys.filter _).take _ = _
      rw [hkeys, hall, List.take_of_length_le hlen]
      simp [firstKeys, List.range_succ]

/-- The first issues fill the cache, and the body of one more is still to come. -/
theorem exists_full :
    ∃ cache others, cache.keys = others ++ [Client.key (issue 0)] ∧ others.length = 1023 ∧
      Client.key (issue 1024) ∉ cache.keys ∧
      (start "http://h" none).run (filling 1024 ++ [.fetch 0 (issue 1024), .head 0 200]) =
        ⟨withCache cache, 0, [(0, ⟨issue 1024, .reading⟩)]⟩ := by
  have hfits : 1024 ≤ Cache.capacity := Nat.le_refl _
  obtain ⟨cache, hkeys, hrun⟩ := run_filling hfits
  refine ⟨cache, (List.range 1023).reverse.map fun i => Client.key (issue (i + 1)), ?_, ?_,
    hkeys ▸ key_notMem_firstKeys hfits, run_filling_announced hfits hkeys hrun⟩
  · rw [hkeys, firstKeys, List.range_succ_eq_map, List.reverse_cons, List.map_append, List.map_reverse, List.map_map,
      List.map_reverse]
    rfl
  · rw [List.length_map, List.length_reverse, List.length_range]

/-- Two issues are fetched, and time passes. -/
def fetchedBoth (n : Nat) : List Happening := fetched (issue 9) ++ fetched (issue 8) ++ [.passed n]

/-- The first of as many issues as fit in goes when one more comes. Five minutes after it was stored, a result is
served, and a moment later it goes. -/
theorem keeps_recently_used_full :
    let s₀ := start "http://h" none
    let full := s₀.run (filling 1024 ++ [.fetch 0 (issue 1024), .head 0 200])
    let later := s₀.run (fetchedBoth (300 * second))
    let tooLate := s₀.run (fetchedBoth (300 * second + 1))
    (∃ kept, full.client.cache.keys = kept ++ [Client.key (issue 0)] ∧
      (full.next (.body 0 (some page))).client.cache.keys = Client.key (issue 1024) :: kept) ∧
    later.answer? (.fetch 0 (issue 9)) = some (0, .resolved ⟨"https://h/o/r/9", "Crash"⟩) ∧
    ∀ key, (tooLate.next (.fetch 0 (issue 9))).client.cache.get? key =
      if key = Client.key (issue 9) then none else tooLate.client.cache.get? key := by
  have hfull := (keeps_recently_used "http://h" none (filling 1024 ++ [.fetch 0 (issue 1024), .head 0 200])).2.2.1
  have hlater := (keeps_recently_used "http://h" none (fetchedBoth (300 * second))).2.1
  have htooLate := (keeps_recently_used "http://h" none (fetchedBoth (300 * second + 1))).2.2.2.1
  dsimp only
  refine ⟨?_, ?_, htooLate (.fetch 0 (issue 9)) 0 (issue 9) ⟨⟨"https://h/o/r/9", "Crash"⟩, 0⟩ (by decide +kernel)
    (by decide +kernel) (by decide +kernel)⟩
  · obtain ⟨cache, others, hkeys, hlen, hnew, hrun⟩ := exists_full
    have hlength : cache.keys.length = 1024 := by rw [hkeys, List.length_append, hlen]; rfl
    rw [hrun] at hfull ⊢
    obtain ⟨kept, oldest, hsplit, hnext, -⟩ := hfull _ _ stores_page hnew hlength
    have holdest : others ++ [Client.key (issue 0)] = kept ++ [oldest] := hkeys.symm.trans hsplit
    obtain ⟨rfl, -⟩ := List.append_inj' holdest rfl
    exact ⟨others, hkeys, hnext⟩
  · exact (hlater (.fetch 0 (issue 9)) 0 (issue 9) ⟨issue 9, ⟨"https://h/o/r/9", "Crash"⟩, 0⟩ (by decide +kernel)
      (by decide +kernel) (by decide +kernel) (by decide +kernel)).1

end Session

end ForgeBridge.Tracker
