import ForgeBridge.Net.Uri
import ForgeBridge.Proofs.TextBytes

/-!
# Texts of hosts

A host of a URL is written as a name or an address of 32 bits in ASCII, or as an address of 128 bits between
brackets (`looks_of_ofText`). What is in a name may also be in the name of a server of a request, but for four
characters.
-/

namespace ForgeBridge

section
variable {α : Type} {sep : List α} {pieces : List (List α)}

theorem mem_intercalate {a : α} (h : a ∈ sep.intercalate pieces) : a ∈ sep ∨ ∃ piece ∈ pieces, a ∈ piece := by
  induction pieces with
  | nil => cases h
  | cons piece pieces ih =>
    by_cases hnil : pieces = []
    · rw [hnil, List.intercalate_singleton] at h
      exact .inr ⟨piece, .head _, h⟩
    · rw [List.intercalate_cons_of_ne_nil hnil, List.append_assoc, List.mem_append, List.mem_append] at h
      rcases h with h | h | h
      · exact .inr ⟨piece, .head _, h⟩
      · exact .inl h
      · rcases ih h with hsep | ⟨other, hother, ha⟩
        · exact .inl hsep
        · exact .inr ⟨other, .tail _ hother, ha⟩

/-- Marks are counted between pieces that hold none. -/
theorem count_intercalate [DecidableEq α] {mark : α} (h : ∀ piece ∈ pieces, mark ∉ piece) :
    ([mark].intercalate pieces).count mark = pieces.length - 1 := by
  induction pieces with
  | nil => rfl
  | cons piece pieces ih =>
    obtain ⟨hpiece, hpieces⟩ := List.forall_mem_cons.1 h
    by_cases hnil : pieces = []
    · rw [hnil, List.intercalate_singleton, List.count_eq_zero.2 hpiece]
      rfl
    · have hlen : 0 < pieces.length := List.length_pos_iff.2 hnil
      rw [List.intercalate_cons_of_ne_nil hnil, List.count_append, List.count_append, ih hpieces,
        List.count_eq_zero.2 hpiece, List.count_singleton_self, List.length_cons]
      omega

end

namespace Net

namespace Uri

/-- A character of the name of a server that stands for nothing but itself. -/
def IsLiteral (c : Char) : Prop := isServerChar c = true ∧ c ≠ '%'

instance (c : Char) : Decidable (IsLiteral c) := inferInstanceAs (Decidable (_ ∧ _))

end Uri

open Uri

/-! ## Addresses -/

theorem isLiteral_of_mem_toDigits {base n : Nat} (hbase : 1 < base) (hle : base ≤ 16) :
    ∀ c ∈ Nat.toDigits base n, IsLiteral c := by
  have hdigit : ∀ d < 16, IsLiteral (Nat.digitChar d) := by decide
  induction n using Nat.strongRecOn with
  | ind n ih =>
    intro c hc
    rw [Nat.toDigits_eq_if hbase] at hc
    split at hc
    · rw [List.mem_singleton.1 hc]
      exact hdigit n (by omega)
    · rename_i hlarge
      rcases List.mem_append.1 hc with hc | hc
      · exact ih (n / base) (Nat.div_lt_self (by omega) hbase) c hc
      · rw [List.mem_singleton.1 hc]
        have hmod : n % base < base := Nat.mod_lt n (by omega)
        exact hdigit _ (by omega)

theorem isLiteral_toString {n : Nat} : ∀ c ∈ (toString n).toList, IsLiteral c := by
  rw [Nat.toString_eq_ofList_toDigits, String.toList_ofList]
  exact isLiteral_of_mem_toDigits (by decide) (by decide)

/-- An address of 32 bits is written in digits and dots. -/
theorem Ipv4.isLiteral_display (a : Ipv4) : a.display.toList ≠ [] ∧ ∀ c ∈ a.display.toList, IsLiteral c := by
  rw [display, String.toList_intercalate]
  constructor
  · intro hnil
    simp [bytes] at hnil
  · intro c hc
    rcases mem_intercalate hc with hdot | ⟨piece, hpiece, hc⟩
    · rw [List.mem_singleton.1 hdot]
      decide
    · simp only [List.mem_map] at hpiece
      obtain ⟨s, ⟨b, -, rfl⟩, rfl⟩ := hpiece
      exact isLiteral_toString c hc

namespace Ipv6

/-- The run of zeros that is longest starts at one of the groups. -/
theorem longestZeros_lt (groups : List UInt16) (h : groups ≠ []) : (longestZeros groups).1 < groups.length := by
  have hfold : ∀ (places : List Nat) (best : Nat × Nat), (∀ i ∈ places, i < groups.length) → best.1 < groups.length →
      (places.foldl (fun best i =>
        let n := ((groups.drop i).takeWhile (· = 0)).length
        if best.2 < n then (i, n) else best) best).1 < groups.length := by
    intro places
    induction places with
    | nil => exact fun _ _ hbest => hbest
    | cons i places ih =>
      intro best hplaces hbest
      obtain ⟨hi, hplaces⟩ := List.forall_mem_cons.1 hplaces
      rw [List.foldl_cons]
      refine ih _ hplaces ?_
      dsimp only
      split
      · exact hi
      · exact hbest
  exact hfold _ _ (fun i hi => List.mem_range.1 hi) (List.length_pos_iff.2 h)

theorem toList_hexGroups (groups : List UInt16) :
    (hexGroups groups).toList = [':'].intercalate (groups.map fun g => Nat.toDigits 16 g.toNat) := by
  have htext (g : UInt16) : (Text.hexText g.toNat).toList = Nat.toDigits 16 g.toNat := String.toList_ofList
  rw [hexGroups, String.toList_intercalate, List.map_map]
  simp only [Function.comp_def, htext]
  rfl

theorem mem_hexGroups {groups : List UInt16} : ∀ c ∈ (hexGroups groups).toList, c = ':' ∨ IsLiteral c := by
  intro c hc
  rw [toList_hexGroups] at hc
  rcases mem_intercalate hc with hcolon | ⟨piece, hpiece, hc⟩
  · exact .inl (List.mem_singleton.1 hcolon)
  · obtain ⟨g, -, rfl⟩ := List.mem_map.1 hpiece
    exact .inr (isLiteral_of_mem_toDigits (by decide) (by decide) c hc)

theorem count_hexGroups (groups : List UInt16) : (hexGroups groups).toList.count ':' = groups.length - 1 := by
  rw [toList_hexGroups, count_intercalate, List.length_map]
  intro piece hpiece hmem
  obtain ⟨g, -, rfl⟩ := List.mem_map.1 hpiece
  exact absurd (isLiteral_of_mem_toDigits (by decide) (by decide) ':' hmem) (by decide)

/-- An address of 128 bits is written in digits and no more than eight colons. -/
theorem chars_compressed (a : Ipv6) :
    (∀ c ∈ a.compressed.toList, c = ':' ∨ IsLiteral c) ∧ a.compressed.toList.count ':' ≤ 8 := by
  have hlen := a.length_groups
  have hstart := longestZeros_lt a.groups (List.length_pos_iff.1 (by omega))
  unfold compressed
  generalize longestZeros a.groups = best at hstart ⊢
  obtain ⟨i, n⟩ := best
  dsimp only at hstart ⊢
  split
  · rw [String.toList_append, String.toList_append]
    constructor
    · intro c hc
      rcases List.mem_append.1 hc with hc | hc
      · rcases List.mem_append.1 hc with hc | hc
        · exact mem_hexGroups c hc
        · have hcolons : "::".toList = [':', ':'] := rfl
          rw [hcolons] at hc
          exact .inl (by simpa using hc)
      · exact mem_hexGroups c hc
    · have hcolons : "::".toList.count ':' = 2 := rfl
      rw [List.count_append, List.count_append, count_hexGroups, count_hexGroups, hcolons, List.length_take,
        List.length_drop]
      omega
  · exact ⟨mem_hexGroups, by rw [count_hexGroups]; omega⟩

end Ipv6

end Net

namespace Url

open Net.Uri

/-! ## Names -/

/-- The characters that the host of a URL may hold, and the name of a server may not. -/
def oddities : List Char := ['"', '\x60', '\x7b', '\x7d']

/-- A character that a domain name may hold. -/
def IsAllowed (c : Char) : Prop := c.toNat < 128 ∧ isForbidden c = false

instance (c : Char) : Decidable (IsAllowed c) := inferInstanceAs (Decidable (_ ∧ _))

theorem literal_or_odd {c : Char} (h : IsAllowed c) : IsLiteral c ∨ c ∈ oddities := by
  have hascii := Text.forall_ascii (P := fun c => isForbidden c = false → IsLiteral c ∨ c ∈ oddities)
    (by decide +kernel) h.1
  exact hascii h.2

namespace Punycode

/-- The digits that are written are those of the numbers below 36. -/
def AreDigits (cs : List Char) : Prop := ∀ c ∈ cs, ∃ n < 36, c = digit n

theorem areDigits_digits (bias k q : Nat) : AreDigits (digits bias k q) := by
  fun_induction digits bias k q with
  | case1 k q t h =>
    have hle : t ≤ 26 := by unfold t threshold; omega
    intro c hc
    exact ⟨q, by omega, List.mem_singleton.1 hc⟩
  | case2 k q t h ih =>
    have hle : t ≤ 26 := by unfold t threshold; omega
    have hmod : (q - t) % (36 - t) < 36 - t := Nat.mod_lt _ (by omega)
    exact List.forall_mem_cons.2 ⟨⟨_, by omega, rfl⟩, ih⟩

/-- All that an encoder has written are digits. -/
def Encoder.WritesDigits (e : Encoder) : Prop := ∀ word ∈ e.written, AreDigits word

namespace Encoder.WritesDigits

variable {e : Encoder}

theorem moved (h : e.WritesDigits) (delta : Nat) : { e with delta := delta }.WritesDigits := h

theorem pass (h : e.WritesDigits) (n : Nat) (c : Char) : (e.pass n c).WritesDigits := by
  unfold Encoder.pass
  split
  · exact h
  · split
    · exact List.forall_mem_cons.2 ⟨areDigits_digits _ _ _, h⟩
    · exact h

theorem foldl_pass (h : e.WritesDigits) (n : Nat) (label : List Char) :
    (label.foldl (Encoder.pass n) e).WritesDigits := by
  induction label generalizing e with
  | nil => exact h
  | cons c label ih => exact ih (h.pass n c)

theorem place (h : e.WritesDigits) (label : List Char) (points : List Nat) (first : Nat) :
    (Punycode.place label points first e).WritesDigits := by
  induction points generalizing e first with
  | nil => exact h
  | cons n points ih =>
    have hpassed := (h.moved (e.delta + (n - first) * (e.placed + 1))).foldl_pass n label
    exact ih (hpassed.moved _) (n + 1)

end Encoder.WritesDigits

/-- An encoded label holds the ASCII characters of the label, a hyphen and digits. -/
theorem mem_encode {label : List Char} {c : Char} (h : c ∈ encode label) :
    c ∈ label ∧ c.toNat < 128 ∨ c = '-' ∨ ∃ n < 36, c = digit n := by
  simp only [encode] at h
  rcases List.mem_append.1 h with h | h
  · rcases List.mem_append.1 h with h | h
    · obtain ⟨hmem, hlt⟩ := List.mem_filter.1 h
      exact .inl ⟨hmem, by simpa using hlt⟩
    · split at h
      · cases h
      · exact .inr (.inl (List.mem_singleton.1 h))
  · obtain ⟨word, hword, hc⟩ := List.mem_flatten.1 h
    have hstart : (⟨0, 72, (label.filter (·.toNat < 128)).length, true, []⟩ : Encoder).WritesDigits :=
      List.forall_mem_nil _
    exact .inr (.inr (hstart.place label (points label) 128 word (List.mem_reverse.1 hword) c hc))

end Punycode

/-- The ASCII form of a label holds no more than names may hold, if the label holds nothing forbidden. -/
theorem isAllowed_asciiLabel {label : List Char} (h : ∀ c ∈ label, isForbidden c = false) :
    ∀ c ∈ asciiLabel label, IsAllowed c := by
  have hdigit : ∀ n < 36, IsAllowed (Punycode.digit n) := by decide +kernel
  have hmark : ∀ c ∈ encodedMark, IsAllowed c := Text.forall_mem_of_all (by decide)
  intro c hc
  unfold asciiLabel at hc
  split at hc
  · rename_i hascii
    exact ⟨by simpa using List.all_eq_true.1 hascii c hc, h c hc⟩
  · rcases List.mem_append.1 hc with hc | hc
    · exact hmark c hc
    · rcases Punycode.mem_encode hc with ⟨hmem, hlt⟩ | rfl | ⟨n, hn, rfl⟩
      · exact ⟨hlt, h c hmem⟩
      · decide
      · exact hdigit n hn

theorem mem_of_mem_splitAt {sep : Char} {cs piece : List Char} (h : piece ∈ Text.splitAt sep cs) : piece ⊆ cs := by
  induction cs generalizing piece with
  | nil =>
    rw [List.mem_singleton.1 h]
    exact List.nil_subset _
  | cons c cs ih =>
    rw [Text.splitAt] at h
    split at h
    · rw [List.mem_singleton.1 h]
      exact List.cons_subset_cons c (List.nil_subset _)
    · rename_i front others heq
      have hin {p : List Char} (hp : p ∈ front :: others) : p ⊆ cs := ih (heq ▸ hp)
      split at h
      · rcases List.mem_cons.1 h with rfl | h
        · exact List.nil_subset _
        · exact List.Subset.trans (hin h) (List.subset_cons_self c cs)
      · rcases List.mem_cons.1 h with rfl | h
        · exact List.cons_subset_cons c (hin (.head _))
        · exact List.Subset.trans (hin (.tail _ h)) (List.subset_cons_self c cs)

/-- A domain name in ASCII holds no more than names may hold. -/
theorem isAllowed_of_domainToAscii {cs name : List Char} (h : domainToAscii? cs = some name) :
    ∀ c ∈ name, IsAllowed c := by
  simp only [domainToAscii?, Option.bind_eq_bind, Option.bind_eq_some_iff, Option.pure_def] at h
  obtain ⟨mapped, -, h⟩ := h
  split at h
  · cases h
  · rename_i hclean
    obtain ⟨meant, -, h⟩ := Option.bind_eq_some_iff.1 h
    split at h
    · cases h
    · split at h
      · cases h
      · cases h
        intro c hc
        rcases mem_intercalate hc with hdot | ⟨piece, hpiece, hc⟩
        · rw [List.mem_singleton.1 hdot]
          decide
        · obtain ⟨label, hlabel, rfl⟩ := List.mem_map.1 hpiece
          refine isAllowed_asciiLabel (fun d hd => ?_) c hc
          have hnone := List.any_eq_false.1 (Bool.eq_false_iff.2 hclean) d (mem_of_mem_splitAt hlabel hd)
          exact Bool.eq_false_iff.2 hnone

/-! ## Hosts -/

/-- How a host is written: as a name, or between brackets with colons. -/
inductive Looks (text : List Char) : Prop where
  | name (nonempty : text ≠ []) (chars : ∀ c ∈ text, IsLiteral c ∨ c ∈ oddities)
  | bracketed (inner : List Char) (eq : text = '[' :: (inner ++ [']'])) (chars : ∀ c ∈ inner, c = ':' ∨ IsLiteral c)
    (colons : inner.count ':' ≤ 8)

theorem looks_of_bracketed {cs : List Char} {host : Host} (h : Host.bracketed cs = .ok host) :
    Looks host.display.toList := by
  unfold Host.bracketed at h
  split at h
  · split at h
    · rename_i a _
      cases h
      obtain ⟨hchars, hcount⟩ := a.chars_compressed
      refine .bracketed a.compressed.toList ?_ hchars hcount
      rw [Host.display, String.toList_append, String.toList_append]
      rfl
    · cases h
  · cases h

/-- Hosts of special schemes are written so. -/
theorem looks_of_ofText {cs : List Char} {host : Host} (h : Host.ofText cs = .ok host) :
    Looks host.display.toList := by
  unfold Host.ofText at h
  split at h
  · exact looks_of_bracketed h
  · split at h
    · cases h
    · split at h
      · cases h
      · cases h
      · rename_i name hne hname
        split at h
        · split at h
          · rename_i a _
            cases h
            obtain ⟨hne, hchars⟩ := a.isLiteral_display
            exact .name hne fun c hc => .inl (hchars c hc)
          · cases h
        · cases h
          have hallowed := isAllowed_of_domainToAscii hname
          rw [Host.display, String.toList_ofList]
          exact .name (fun hnil => hne hnil) fun c hc => literal_or_odd (hallowed c hc)

end Url

end ForgeBridge
