import ForgeBridge.Json.Printer
import ForgeBridge.Proofs.Admission
import ForgeBridge.Proofs.Flights

/-!
# Answers from the cache

The cache of a session changes in two ways (`next_cache`): a fetch that starts looks for its issue, and a
body that holds an issue is stored. So in every run an entry is the last result that was stored under its
key (`entry_of_run`), whatever else is fetched, fails, is given up or is dropped from the cache meanwhile.

A fetch that is resolved and has sent no request was answered from the cache, with the last result for
its issue, and the breaker has no part in it; all other answers come from requests and from the breaker
(`resolved_without_request`).
-/

namespace ForgeBridge

/-- An issue whose owner and repository have no slash in their names. -/
def Reference.IsPlain (r : Reference) : Prop := '/' ∉ r.owner.toList ∧ '/' ∉ r.repo.toList

instance (r : Reference) : Decidable r.IsPlain := inferInstanceAs (Decidable (_ ∧ _))

namespace Tracker

/-! ## Keys -/

theorem slash_notMem_toDigits (n : Nat) : '/' ∉ Nat.toDigits 10 n := by
  intro hmem
  have hdigit := Nat.isDigit_of_mem_toDigits (by omega) (by omega) hmem
  exact absurd hdigit (by decide)

/-- The first slash of a text cuts it in one way. -/
theorem eq_of_append_slash {a a' t t' : List Char} (ha : '/' ∉ a) (ha' : '/' ∉ a')
    (h : a ++ '/' :: t = a' ++ '/' :: t') : a = a' ∧ t = t' := by
  rcases List.append_eq_append_iff.1 h with ⟨c, rfl, hc⟩ | ⟨c, rfl, hc⟩ <;>
    rcases c with _ | ⟨x, c⟩
  · exact ⟨(List.append_nil a).symm, (List.cons.inj hc).2⟩
  · obtain ⟨rfl, -⟩ := List.cons.inj hc
    exact absurd (List.mem_append_right a (.head _)) ha'
  · exact ⟨List.append_nil a', (List.cons.inj hc).2.symm⟩
  · obtain ⟨rfl, -⟩ := List.cons.inj hc
    exact absurd (List.mem_append_right a' (.head _)) ha

namespace Client

theorem toList_key (r : Reference) :
    (key r).toList = r.owner.toList ++ '/' :: (r.repo.toList ++ '/' :: Nat.toDigits 10 r.number.toNat) := by
  simp [key, String.toList_append]

/-- No other issue has the key of an issue whose names have no slash. -/
theorem eq_of_key {r r' : Reference} (hr : r.IsPlain) (h : key r' = key r) : r' = r := by
  obtain ⟨howner, hrepo⟩ := hr
  have hkeys := congrArg String.toList h
  rw [toList_key, toList_key] at hkeys
  -- both keys have two slashes, so the other names have none either
  have hcount := congrArg (List.count '/') hkeys
  simp only [List.count_append, List.count_cons_self, List.count_eq_zero.2 (slash_notMem_toDigits _),
    List.count_eq_zero.2 howner, List.count_eq_zero.2 hrepo] at hcount
  have howner' : '/' ∉ r'.owner.toList := List.count_eq_zero.1 (by omega)
  have hrepo' : '/' ∉ r'.repo.toList := List.count_eq_zero.1 (by omega)
  obtain ⟨howners, hrest⟩ := eq_of_append_slash howner' howner hkeys
  obtain ⟨hrepos, hdigits⟩ := eq_of_append_slash hrepo' hrepo hrest
  have hnumbers : r'.number.toNat = r.number.toNat := by
    rw [← Nat.ofDigitChars_ten_toDigits (n := r'.number.toNat), hdigits, Nat.ofDigitChars_ten_toDigits]
  obtain ⟨owner', repo', number'⟩ := r'
  obtain ⟨owner, repo, number⟩ := r
  rw [Reference.mk.injEq]
  exact ⟨String.toList_inj.1 howners, String.toList_inj.1 hrepos, UInt64.toNat_inj.1 hnumbers⟩

end Client

/-! ## The cache -/

namespace Cache

variable {c : Cache} {now : Nat} {key other : String} {e x : Entry}

theorem isExpired_iff : isExpired now e = true ↔ e.storedAt + 300 * second < now := by
  rw [isExpired, decide_eq_true_iff, lifetime, second]
  omega

theorem get?_erase (c : Cache) (key other : String) :
    (c.erase key).get? other = if other = key then none else c.get? other :=
  lookup_without other key c.entries

/-- What is in a cache after an entry was put there was put there, or was there before. -/
theorem get?_put (h : (c.put key e).get? other = some x) :
    other = key ∧ x = e ∨ other ≠ key ∧ c.get? other = some x := by
  simp only [get?, put, lookup_cons_ite] at h
  by_cases ho : other = key
  · rw [if_pos ho] at h
    exact .inl ⟨ho, (Option.some.inj h).symm⟩
  · rw [if_neg ho] at h
    have hbefore : (c.erase key).get? other = some x := lookup_of_take h
    rw [get?_erase, if_neg ho] at hbefore
    exact .inr ⟨ho, hbefore⟩

/-- What is served is in the cache, and not too old. -/
theorem serve_hit {summary : Summary} (h : (c.serve now key).1 = some summary) :
    ∃ e, c.get? key = some e ∧ e.summary = summary ∧ now ≤ e.storedAt + 300 * second := by
  unfold serve at h
  split at h
  · cases h
  · rename_i e he
    split at h
    · cases h
    · rename_i hfresh
      refine ⟨e, he, Option.some.inj h, ?_⟩
      rw [isExpired_iff] at hfresh
      exact Nat.not_lt.1 hfresh

/-- Serving a key puts nothing new into the cache. -/
theorem get?_serve (h : (c.serve now key).2.get? other = some x) : c.get? other = some x := by
  unfold serve at h
  split at h
  · exact h
  · rename_i e he
    split at h
    · rw [get?_erase] at h
      split at h
      · cases h
      · exact h
    · rcases get?_put h with ⟨rfl, rfl⟩ | ⟨-, hx⟩
      · exact he
      · exact hx

end Cache

namespace Session

variable {s : Session} {h : Happening} {id : Nat} {r : Reference}

/-! ## Looking and storing -/

/-- The fetch that starts in a happening and looks into the cache. -/
def looks (s : Session) : Happening → Option (Nat × Reference)
  | .looked id reference | .fetch id reference =>
    if (s.flight? id).isSome then none else some (id, reference)
  | _ => none

/-- A result that is stored. -/
structure Stored where
  reference : Reference
  summary : Summary
  time : Nat
deriving DecidableEq

/-- The result that is stored in a happening: the body of a success comes, and it holds an issue. -/
def stores (s : Session) : Happening → Option Stored
  | .body id (some body) =>
    match s.flight? id, Client.summaryOf body with
    | some ⟨reference, .reading⟩, .ok summary => some ⟨reference, summary, s.now⟩
    | _, _ => none
  | _ => none

/-- The results that are stored in a run. -/
def stored (s : Session) : List Happening → List Stored
  | [] => []
  | h :: hs => (s.stores h).toList ++ (s.next h).stored hs

theorem stored_concat (s : Session) (hs : List Happening) (h : Happening) :
    s.stored (hs ++ [h]) = s.stored hs ++ ((s.run hs).stores h).toList := by
  induction hs generalizing s with
  | nil => simp [stored, run]
  | cons k hs ih => simp only [List.cons_append, stored, ih, run, List.foldl_cons, List.append_assoc]

theorem cache_ask (s : Session) (id : Nat) (r : Reference) :
    (s.ask id r).value.1.client.cache = s.client.cache := by
  cases hb : s.client.breaker.allows s.now with
  | false => simp [ask, Client.ask_refused hb, land]
  | true =>
    cases hq : s.client.request? r with
    | none => simp [ask, Client.ask_unbuilt hb hq, land]
    | some q => simp [ask, Client.ask_sent hb hq, advance]

/-- What a happening does to the cache. -/
theorem next_cache (s : Session) (h : Happening) :
    (s.next h).client.cache =
      match s.looks h, s.stores h with
      | some (_, r), _ => (s.client.cache.serve s.now (Client.key r)).2
      | none, some x => s.client.cache.store x.time (Client.key x.reference) x.summary
      | none, none => s.client.cache := by
  cases h with
  | passed n => rfl
  | cancelled i => rfl
  | looked i r =>
    by_cases hf : (s.flight? i).isSome = true
    · simp [next, step, looks, stores, hf]
    · rcases hs : s.client.cache.serve s.now (Client.key r) with ⟨_ | summary, cache⟩
      · simp [next, step, looks, hf, hs, look, Client.look_missed hs, advance]
      · simp [next, step, looks, hf, hs, look, Client.look_hit hs]
  | asked i =>
    rcases hf : s.flight? i with _ | ⟨r, _ | _ | _⟩
    case some.missed => simp only [next, step, looks, stores, hf, cache_ask]
    all_goals simp [next, step, looks, stores, hf]
  | fetch i r =>
    by_cases hf : (s.flight? i).isSome = true
    · simp [next, step, looks, stores, hf]
    · rcases hs : s.client.cache.serve s.now (Client.key r) with ⟨_ | summary, cache⟩
      · simp [next, step, looks, hf, hs, look, Client.look_missed hs, cache_ask, advance]
      · simp [next, step, looks, hf, hs, look, Client.look_hit hs]
  | broken i failure =>
    rcases hf : s.flight? i with _ | ⟨r, _ | _ | _⟩ <;>
      simp [next, step, looks, stores, hf, Client.failWith_value]
  | head i status =>
    rcases hf : s.flight? i with _ | ⟨r, _ | _ | _⟩
    case some.waiting =>
      by_cases h2 : Net.isSuccess status = true
      · simp [next, step, looks, stores, hf, Client.takeHead, h2, advance, Client.reportSuccess]
      · by_cases h4 : status = 404 ∨ status = 410
        · simp [next, step, looks, stores, hf, Client.takeHead, h2, h4, land, Client.reportSuccess]
        · simp [next, step, looks, stores, hf, Client.takeHead, h2, h4, land, Client.failWith_value]
    all_goals simp [next, step, looks, stores, hf]
  | body i content =>
    rcases hf : s.flight? i with _ | ⟨r, _ | _ | _⟩
    case some.reading =>
      cases content with
      | none => simp [next, step, looks, stores, hf, Client.takeBody]
      | some body =>
        cases hsum : Client.summaryOf body <;>
          simp [next, step, looks, stores, hf, Client.takeBody, hsum]
    all_goals cases content <;> simp [next, step, looks, stores, hf]

/-- In every run, an entry of the cache is the last result that was stored under its key. -/
theorem entry_of_run {s : Session} (hempty : s.client.cache = .empty) {hs : List Happening} {key : String}
    {e : Entry} (he : (s.run hs).client.cache.get? key = some e) :
    ∃ front h back x, hs = front ++ h :: back ∧ (s.run front).stores h = some x ∧
      Client.key x.reference = key ∧ e = ⟨x.summary, x.time⟩ ∧
      ∀ y ∈ ((s.run front).next h).stored back, Client.key y.reference ≠ key := by
  induction hs using List.reverseRecOn generalizing e with
  | nil =>
    simp [run, hempty, Cache.get?, Cache.empty] at he
  | append_singleton hs h ih =>
    -- an entry that was there before is still the last one, unless a result is stored under its key
    have hkeep (hbefore : (s.run hs).client.cache.get? key = some e)
        (hother : ∀ y, (s.run hs).stores h = some y → Client.key y.reference ≠ key) :
        ∃ front k back x, hs ++ [h] = front ++ k :: back ∧ (s.run front).stores k = some x ∧
          Client.key x.reference = key ∧ e = ⟨x.summary, x.time⟩ ∧
          ∀ y ∈ ((s.run front).next k).stored back, Client.key y.reference ≠ key := by
      obtain ⟨front, k, back, x, rfl, hx, hkey, hentry, hlast⟩ := ih hbefore
      refine ⟨front, k, back ++ [h], x, by simp, hx, hkey, hentry, ?_⟩
      intro y hy
      rw [stored_concat] at hy
      rcases List.mem_append.1 hy with hy | hy
      · exact hlast y hy
      · refine hother y ?_
        rw [run_append]
        exact Option.mem_toList.1 hy
    rw [run_concat, next_cache] at he
    split at he
    · rename_i r hlooks
      refine hkeep (Cache.get?_serve he) fun y hy => ?_
      -- a happening that looks into the cache stores nothing
      cases h <;> simp [looks, stores] at hlooks hy
    · rename_i x hlooks hx
      rcases Cache.get?_put he with ⟨hkey, hentry⟩ | ⟨hne, hbefore⟩
      · exact ⟨hs, h, [], x, rfl, hx, hkey.symm, hentry, by simp [stored]⟩
      · refine hkeep hbefore fun y hy => ?_
        obtain rfl : x = y := Option.some.inj (hx.symm.trans hy)
        exact Ne.symm hne
    · rename_i hlooks hx
      refine hkeep he fun y hy => ?_
      rw [hx] at hy
      cases hy

/-! ## Where answers come from -/

/-- A session after a fetch has looked for an issue, and nothing else has happened. -/
def lookedFor (s : Session) (r : Reference) : Session :=
  { s with client := { s.client with cache := (s.client.cache.serve s.now (Client.key r)).2 } }

/-- A fetch that finds its issue in the cache is answered with it, and sends nothing. -/
theorem step_hit {summary : Summary} (hl : s.looks h = some (id, r))
    (hs : (s.client.cache.serve s.now (Client.key r)).1 = some summary) :
    (s.step h).value = (s.lookedFor r, some (id, .resolved summary)) ∧ s.sends h = none := by
  have hlook := Client.look_hit (Prod.ext hs rfl : s.client.cache.serve s.now (Client.key r) = (some summary, _))
  cases h with
  | looked i r' =>
    simp only [looks] at hl
    split at hl
    · cases hl
    · rename_i hf
      cases hl
      exact ⟨by simp [step, hf, look, hlook, lookedFor], rfl⟩
  | fetch i r' =>
    simp only [looks] at hl
    split at hl
    · cases hl
    · rename_i hf
      cases hl
      exact ⟨by simp [step, hf, look, hlook, lookedFor], by simp [sends, asks, hf, hlook]⟩
  | _ => cases hl

/-- A fetch that asks the breaker is not resolved by it. -/
theorem failed_of_asks {i : Nat} {a : Resolution} (ha : s.asks h = some (i, r))
    (hanswer : s.answer? h = some (id, a)) : id = i ∧ ∃ e, a = .failed e := by
  cases hb : s.client.breaker.allows s.now with
  | false =>
    cases (asks_refused ha hb).2.2.symm.trans hanswer
    exact ⟨rfl, _, rfl⟩
  | true =>
    cases hq : s.client.request? r with
    | none =>
      cases (asks_unbuilt ha hb hq).2.2.symm.trans hanswer
      exact ⟨rfl, _, rfl⟩
    | some q => cases (asks_sent ha hb hq).2.2.1.symm.trans hanswer

/-- Where the answer of a fetch comes from. -/
inductive Source (s : Session) (h : Happening) (id : Nat) (a : Resolution) : Prop where
  | cache (r : Reference) (summary : Summary) (looks : s.looks h = some (id, r))
    (hit : (s.client.cache.serve s.now (Client.key r)).1 = some summary) (answer : a = .resolved summary)
  | breaker (r : Reference) (e : Error) (asks : s.asks h = some (id, r)) (answer : a = .failed e)
  | request (out : s.isOut id = true)

theorem source_of_asks {i : Nat} {a : Resolution} (ha : s.asks h = some (i, r))
    (hanswer : s.answer? h = some (id, a)) : s.Source h id a := by
  obtain ⟨rfl, e, rfl⟩ := failed_of_asks ha hanswer
  exact .breaker r e ha rfl

/-- Every answer comes from the cache, from the breaker or from a request. -/
theorem source_of_answer {a : Resolution} (hanswer : s.answer? h = some (id, a)) : s.Source h id a := by
  cases h with
  | passed | cancelled => cases hanswer
  | looked i r =>
    by_cases hf : (s.flight? i).isSome = true
    · simp [answer?, step, hf] at hanswer
    · have hl : s.looks (.looked i r) = some (i, r) := by simp [looks, hf]
      cases hs : (s.client.cache.serve s.now (Client.key r)).1 with
      | none =>
        have hlook := Client.look_missed (Prod.ext hs rfl : s.client.cache.serve s.now (Client.key r) = (none, _))
        simp [answer?, step, hf, look, hlook] at hanswer
      | some summary =>
        rw [answer?, (step_hit hl hs).1] at hanswer
        cases hanswer
        exact .cache r summary hl hs rfl
  | asked i =>
    rcases hf : s.flight? i with _ | ⟨r, _ | _ | _⟩
    case some.missed =>
      have ha : s.asks (.asked i) = some (i, r) := by simp only [asks, hf]
      exact source_of_asks ha hanswer
    all_goals simp [answer?, step, hf] at hanswer
  | fetch i r =>
    by_cases hf : (s.flight? i).isSome = true
    · simp [answer?, step, hf] at hanswer
    · cases hs : (s.client.cache.serve s.now (Client.key r)).1 with
      | none =>
        have hlook := Client.look_missed (Prod.ext hs rfl : s.client.cache.serve s.now (Client.key r) = (none, _))
        exact source_of_asks (by simp [asks, hf, hlook] : s.asks (.fetch i r) = some (i, r)) hanswer
      | some summary =>
        have hl : s.looks (.fetch i r) = some (i, r) := by simp [looks, hf]
        rw [answer?, (step_hit hl hs).1] at hanswer
        cases hanswer
        exact .cache r summary hl hs rfl
  | broken i failure =>
    rcases hf : s.flight? i with _ | ⟨r, _ | _ | _⟩
    case some.waiting =>
      simp only [answer?, step, hf, Logged.value_bind, Logged.value_pure] at hanswer
      cases hanswer
      exact .request (by simp [isOut, hf])
    all_goals simp [answer?, step, hf] at hanswer
  | head i status =>
    rcases hf : s.flight? i with _ | ⟨r, _ | _ | _⟩
    case some.waiting =>
      simp only [answer?, step, hf, Logged.value_bind] at hanswer
      split at hanswer
      · cases hanswer
        exact .request (by simp [isOut, hf])
      · cases hanswer
    all_goals simp [answer?, step, hf] at hanswer
  | body i content =>
    rcases hf : s.flight? i with _ | ⟨r, _ | _ | _⟩
    case some.reading =>
      simp only [answer?, step, hf, Logged.value_pure] at hanswer
      cases hanswer
      exact .request (by simp [isOut, hf])
    all_goals simp [answer?, step, hf] at hanswer

/-- The same session with another breaker. -/
def withBreaker (s : Session) (b : Breaker) : Session := { s with client := { s.client with breaker := b } }

/-- The last result that a run stored for an issue: the head of a success came for a fetch of the issue,
then a body that holds the summary, and no other result was stored for the issue since. -/
def LastStored (s : Session) (hs : List Happening) (r : Reference) (summary : Summary) (time : Nat) : Prop :=
  ∃ front id body back, hs = front ++ .body id (some body) :: back ∧ s.Announced front id r ∧
    Client.summaryOf body = .ok summary ∧ (s.run front).now = time ∧
    (s.run front).answer? (.body id (some body)) = some (id, .resolved summary) ∧
    ∀ y ∈ ((s.run front).next (.body id (some body))).stored back, y.reference ≠ r

/-- What is stored is the answer of the fetch that stores it. -/
theorem stores_eq_some {x : Stored} (hx : s.stores h = some x) :
    ∃ id body, h = .body id (some body) ∧ s.flight? id = some ⟨x.reference, .reading⟩ ∧
      Client.summaryOf body = .ok x.summary ∧ s.now = x.time ∧
      s.answer? h = some (id, .resolved x.summary) := by
  cases h with
  | body id content =>
    cases content with
    | none => cases hx
    | some body =>
      simp only [stores] at hx
      split at hx
      · rename_i reference summary hf hsum
        cases hx
        exact ⟨id, body, rfl, hf, hsum, rfl, by simp [answer?, step, hf, Client.takeBody, hsum]⟩
      · cases hx
  | _ => cases hx

/-- An entry under the key of an issue without slashes is the last result for this issue. -/
theorem lastStored_of_entry (base : String) (token : Option String) {hs : List Happening} {e : Entry}
    (hr : r.IsPlain) (he : ((start base token).run hs).client.cache.get? (Client.key r) = some e) :
    (start base token).LastStored hs r e.summary e.storedAt ∧
      e.storedAt ≤ ((start base token).run hs).now := by
  obtain ⟨front, h, back, x, rfl, hx, hkey, rfl, hlast⟩ := entry_of_run rfl he
  obtain rfl : x.reference = r := Client.eq_of_key hr hkey
  obtain ⟨id, body, rfl, hf, hsum, htime, hanswer⟩ := stores_eq_some hx
  refine ⟨⟨front, id, body, back, rfl, announced_of_reads rfl hf, hsum, htime, hanswer, ?_⟩, ?_⟩
  · intro y hy heq
    exact hlast y hy (by rw [heq])
  · rw [run_append]
    exact htime ▸ now_le_run ..

/-- A fetch that is resolved and has sent no request has just started, and the last result that was
stored for its issue, five minutes ago at most, is its answer, whatever the breaker is, which stays as it
is. All answers but issues come from requests that were sent, or from the breaker. -/
theorem resolved_without_request (base : String) (token : Option String) (hs : List Happening) :
    let s₀ := start base token
    let s := s₀.run hs
    (∀ h id summary, s.answer? h = some (id, .resolved summary) → ¬s₀.HasSent hs id →
      ∃ r, s.looks h = some (id, r) ∧ s.sends h = none ∧
        (r.IsPlain → ∃ t, s₀.LastStored hs r summary t ∧ t ≤ s.now ∧ s.now ≤ t + 300 * second) ∧
        ∀ b, (s.withBreaker b).answer? h = some (id, .resolved summary) ∧
          ((s.withBreaker b).next h).client.breaker = b) ∧
    ∀ h id a, s.answer? h = some (id, a) → (∀ summary, a ≠ .resolved summary) →
      s₀.HasSent hs id ∨ ∃ r, s.asks h = some (id, r) := by
  intro s₀ s
  have hsent {id : Nat} (ho : s.isOut id = true) : s₀.HasSent hs id := (hasSent_iff rfl).2 ho
  constructor
  · intro h id summary hanswer hnot
    cases source_of_answer hanswer with
    | cache r summary' looks hit answer =>
      obtain rfl : summary = summary' := Resolution.resolved.inj answer
      refine ⟨r, looks, (step_hit looks hit).2, ?_, ?_⟩
      · intro hr
        obtain ⟨e, he, rfl, hfresh⟩ := Cache.serve_hit hit
        obtain ⟨hlast, hle⟩ := lastStored_of_entry base token hr he
        exact ⟨e.storedAt, hlast, hle, hfresh⟩
      · intro b
        have hlooks : (s.withBreaker b).looks h = some (id, r) := by
          cases h <;> exact looks
        have hstep := (step_hit hlooks hit).1
        exact ⟨congrArg Prod.snd hstep, congrArg (·.1.client.breaker) hstep⟩
    | breaker r e asks answer => cases answer
    | request out => exact absurd (hsent out) hnot
  · intro h id a hanswer hnot
    cases source_of_answer hanswer with
    | cache r summary looks hit answer => exact absurd answer (hnot summary)
    | breaker r e asks answer => exact .inr ⟨r, asks⟩
    | request out => exact .inl (hsent out)

/-- The page of an issue, as a server sends it. -/
def page : List UInt8 := Json.object [("html_url", Json.text "https://h/o/r/9"), ("title", Json.text "Crash")]

/-- An issue is fetched, and then the server is down. -/
def fetchedBefore : List Happening :=
  [.fetch 9 (issue 9), .head 9 200, .body 9 (some page), .passed (240 * second)] ++ outage ++
    [.passed (60 * second)]

/-- Five minutes after it was fetched, and with the breaker open, an issue is still served. -/
theorem resolved_without_request_outage :
    let s₀ := start "http://h" none
    let s := s₀.run fetchedBefore
    let summary : Summary := ⟨"https://h/o/r/9", "Crash"⟩
    (issue 9).IsPlain ∧ s.client.breaker.isOpen = true ∧ ¬s₀.HasSent fetchedBefore 10 ∧
      s.answer? (.fetch 10 (issue 9)) = some (10, .resolved summary) ∧
      ∃ t, s₀.LastStored fetchedBefore (issue 9) summary t ∧ s.now ≤ t + 300 * second := by
  intro s₀ s summary
  have hplain : (issue 9).IsPlain := by decide +kernel
  have hanswer : s.answer? (.fetch 10 (issue 9)) = some (10, .resolved summary) := by decide +kernel
  have hnot : ¬s₀.HasSent fetchedBefore 10 := by
    rw [hasSent_iff rfl]
    decide +kernel
  obtain ⟨r, hlooks, -, hstored, -⟩ :=
    (resolved_without_request "http://h" none fetchedBefore).1 _ _ _ hanswer hnot
  have hfetch : s.looks (.fetch 10 (issue 9)) = some (10, issue 9) := by decide +kernel
  cases hfetch.symm.trans hlooks
  obtain ⟨t, hlast, -, hfresh⟩ := hstored hplain
  exact ⟨hplain, by decide +kernel, hnot, hanswer, t, hlast, hfresh⟩

end Session

end Tracker

end ForgeBridge
