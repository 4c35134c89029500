import ForgeBridge.Json.Skip

/-!
Reading a JSON text as a value of a shape. White space may stand around every token. A record is an
object of its members in any order, or a list of them in their own order; members of other names are
passed over. What is wrong with a value as a whole is told behind the value, and what is wrong with
the record behind the record.
-/

namespace ForgeBridge.Json

open Ascii

def Number.found : Number → Found
  | .natural n => .integer n
  | .negative n => .integer (-n)
  | .real isNegative m => .float (.finite isNegative m)

/-- The failure at a value that is not of the expected kind; `bs` starts with the value. -/
def unexpected (expected : String) (bs : List UInt8) : Failure :=
  match bs with
  | [] => .before [] .endInValue
  | b :: more =>
    if b = openBracket then wrong .sequence bs
    else if b = openBrace then wrong .mapping bs
    else if b = quote then either (readStringTail more) (wrong <| .text ·)
    else if b = minus then either (readNumber true more) (wrong ·.found)
    else if isDigit b then either (readNumber false bs) (wrong ·.found)
    else if b = letterN then word .null (skipNull more)
    else if b = letterT then word (.boolean true) (skipTrue more)
    else if b = letterF then word (.boolean false) (skipFalse more)
    else .here bs .noValue
where
  wrong (found : Found) (rest : List UInt8) : Failure :=
    .before rest (.mismatch (.wrongType found expected))
  either {α : Type} (reading : Except Failure (α × List UInt8))
      (f : α → List UInt8 → Failure) : Failure :=
    match reading with
    | .ok (a, rest) => f a rest
    | .error g => g
  word (found : Found) (skipped : Except Failure (List UInt8)) : Failure :=
    match skipped with
    | .ok rest => wrong found rest
    | .error g => g

namespace Reader

/-- Reads on from what was read. -/
def map (f : α → β) (r : Reader α) : Reader β where
  read bs :=
    match r.read bs with
    | .error g => .error g
    | .ok (a, rest) => .ok (f a, rest)
  shorter := by
    intro bs b rest h
    split at h
    · simp at h
    · simp only [Except.ok.injEq, Prod.mk.injEq] at h
      exact h.2 ▸ r.shorter ‹_›

/-- A string. -/
def text : Reader String where
  read bs :=
    match skipBlank bs with
    | quote :: more => readStringTail more
    | other => .error (unexpected Shape.text.expected other)
  shorter := by
    intro bs s rest h
    have := skipBlank_length bs
    split at h
    · have := readStringTail_length h
      simp_all
      omega
    · simp at h

/-- A whole number of 64 bits, or why another number is none. -/
def naturalOf (x : Number) (rest : List UInt8) : Except Failure (UInt64 × List UInt8) :=
  match x with
  | .natural n => .ok (.ofNat n, rest)
  | .negative _ => .error (.before rest (.mismatch (.wrongValue x.found Shape.natural.expected)))
  | .real .. => .error (.before rest (.mismatch (.wrongType x.found Shape.natural.expected)))

theorem naturalOf_rest {x : Number} {bs rest : List UInt8} {n : UInt64}
    (h : naturalOf x bs = .ok (n, rest)) : rest = bs := by
  cases x <;> simp_all [naturalOf]

/-- The number at the front of a text, behind a sign if there is one. -/
def number? (bs : List UInt8) : Option (Except Failure (Number × List UInt8)) :=
  match bs with
  | [] => none
  | b :: more =>
    if b = minus then some (readNumber true more)
    else if isDigit b then some (readNumber false bs)
    else none

theorem number?_length {bs rest : List UInt8} {x : Number}
    (h : number? bs = some (.ok (x, rest))) : rest.length < bs.length := by
  unfold number? at h
  split at h
  · simp at h
  · split at h
    · have := readNumber_length (Option.some.inj h)
      simp
      omega
    · split at h
      · exact readNumber_length (Option.some.inj h)
      · simp at h

/-- A whole number of 64 bits. -/
def natural : Reader UInt64 where
  read bs :=
    match number? (skipBlank bs) with
    | some (.ok (x, rest)) => naturalOf x rest
    | some (.error f) => .error f
    | none => .error (unexpected Shape.natural.expected (skipBlank bs))
  shorter := by
    intro bs n rest h
    have := skipBlank_length bs
    split at h
    · have := number?_length ‹_›
      have := naturalOf_rest h
      simp_all
      omega
    · simp at h
    · simp at h

/-- A value, or null. -/
def nullable (r : Reader α) : Reader (Option α) where
  read bs :=
    match skipBlank bs with
    | letterN :: more =>
      match skipNull more with
      | .error f => .error f
      | .ok rest => .ok (none, rest)
    | _ => (r.map some).read bs
  shorter := by
    intro bs a rest h
    have := skipBlank_length bs
    split at h
    · split at h
      · simp at h
      · have := skipWord_length ‹_›
        simp_all
        omega
    · exact (r.map some).shorter h

/-! ## Lists -/

/-- What stands where an element may stand. -/
inductive Next where
  | item (rest : List UInt8)
  | close (rest : List UInt8)

/-- Passes over what is in front of an element, or over the end of the list. -/
def nextItem (first : Bool) (bs : List UInt8) : Except Failure Next :=
  match skipBlank bs with
  | [] => .error (.before [] .endInList)
  | b :: more =>
    if b = closeBracket then .ok (.close more)
    else if first then .ok (.item (b :: more))
    else if b = comma then
      match skipBlank more with
      | [] => .error (.before [] .endInValue)
      | c :: after =>
        if c = closeBracket then .error (.here (c :: after) .trailingComma)
        else .ok (.item (c :: after))
    else .error (.here (b :: more) .noCommaOrBracket)

theorem nextItem_item {first : Bool} {bs rest : List UInt8}
    (h : nextItem first bs = .ok (.item rest)) : rest.length ≤ bs.length := by
  have := skipBlank_length bs
  unfold nextItem at h
  split at h
  · simp at h
  · rename_i b more hb
    have hm := skipBlank_length more
    rw [hb] at this
    simp only [List.length_cons] at this
    split at h
    · simp at h
    · split at h
      · simp only [Except.ok.injEq, Next.item.injEq] at h
        simp [← h]
        omega
      · split at h
        · split at h
          · simp at h
          · rename_i hc
            rw [hc] at hm
            simp only [List.length_cons] at hm
            split at h
            · simp at h
            · simp only [Except.ok.injEq, Next.item.injEq] at h
              simp [← h]
              omega
        · simp at h

theorem nextItem_close {first : Bool} {bs rest : List UInt8}
    (h : nextItem first bs = .ok (.close rest)) : rest.length < bs.length := by
  have hs := skipBlank_length bs
  unfold nextItem at h
  split at h
  · simp at h
  · rename_i b more hb
    rw [hb, List.length_cons] at hs
    split at h
    · cases h
      omega
    · repeat' split at h
      all_goals simp at h

/-- Takes in the elements of a list from the one of the given index on, to the end of the list. -/
def items (item : Reader α) (step : β → α → β) (index : Nat) (acc : β) (bs : List UInt8) :
    Except Failure (β × List UInt8) :=
  match h : nextItem (index == 0) bs with
  | .error f => .error (f.inside (.element index))
  | .ok (.close rest) => .ok (acc, rest)
  | .ok (.item rest) =>
    match hi : item.read rest with
    | .error f => .error (f.inside (.element index))
    | .ok (a, rest) =>
      have := nextItem_item h
      have := item.shorter hi
      items item step (index + 1) (step acc a) rest
termination_by bs.length

theorem items_length {item : Reader α} {step : β → α → β} {index : Nat} {acc b : β}
    {bs rest : List UInt8} (h : items item step index acc bs = .ok (b, rest)) :
    rest.length < bs.length := by
  fun_induction items item step index acc bs with
  | case1 => simp at h
  | case2 index acc bs rest' hn =>
    have := nextItem_close hn
    simp_all
  | case3 => simp at h
  | case4 index acc bs rest' hn a rest'' hi h1 h2 ih =>
    have := ih h
    omega

/-- A list, its elements taken in one after the other. -/
def fold (item : Reader α) (step : β → α → β) (acc : β) : Reader β where
  read bs :=
    match skipBlank bs with
    | openBracket :: more => items item step 0 acc more
    | other => .error (unexpected "a sequence" other)
  shorter := by
    intro bs b rest h
    have := skipBlank_length bs
    split at h
    · have := items_length h
      simp_all
      omega
    · simp at h

/-- A list of values. -/
def list (item : Reader α) : Reader (List α) :=
  (item.fold (fun acc a => a :: acc) []).map List.reverse

/-- The length of a list of anything. -/
def tally : Reader Nat := skip.fold (fun n _ => n + 1) 0

/-! ## Objects -/

/-- The next key of an object, or none at its end. -/
def nextKey (first : Bool) (bs : List UInt8) : Except Failure (Option String × List UInt8) :=
  match skipBlank bs with
  | [] => .error (.before [] .endInObject)
  | b :: more =>
    if b = closeBrace then .ok (none, more)
    else if first then
      if b = quote then key more else .error (.here (b :: more) .keyNotText)
    else if b = comma then
      match skipBlank more with
      | [] => .error (.before [] .endInValue)
      | c :: after =>
        if c = quote then key after
        else if c = closeBrace then .error (.here (c :: after) .trailingComma)
        else .error (.here (c :: after) .keyNotText)
    else .error (.here (b :: more) .noCommaOrBrace)
where
  key (bs : List UInt8) : Except Failure (Option String × List UInt8) :=
    match readStringTail bs with
    | .error f => .error f
    | .ok (s, rest) => .ok (some s, rest)

theorem nextKey_key_length {bs rest : List UInt8} {k : Option String}
    (h : nextKey.key bs = .ok (k, rest)) : rest.length < bs.length := by
  unfold nextKey.key at h
  split at h
  · simp at h
  · have := readStringTail_length ‹_›
    simp_all

theorem nextKey_length {first : Bool} {bs rest : List UInt8} {k : Option String}
    (h : nextKey first bs = .ok (k, rest)) : rest.length < bs.length := by
  have hs := skipBlank_length bs
  unfold nextKey at h
  split at h
  · simp at h
  · rename_i b more hb
    have := skipBlank_length more
    split at h
    · cases h
      rw [hb, List.length_cons] at hs
      omega
    · split at h
      · split at h
        · have := nextKey_key_length h
          simp_all
          omega
        · simp at h
      · split at h
        · split at h
          · simp at h
          · split at h
            · have := nextKey_key_length h
              simp_all
              omega
            · split at h <;> simp at h
        · simp at h

/-- The value of a member, with the colon in front of it. -/
def member (key : String) (value : Reader α) : Reader α where
  read bs :=
    match skipColon bs with
    | .error f => .error (f.inside (.member key))
    | .ok rest =>
      match value.read rest with
      | .error f => .error (f.inside (.member key))
      | .ok (a, rest) => .ok (a, rest)
  shorter := by
    intro bs a rest h
    split at h
    · simp at h
    · have := skipColon_length ‹_›
      split at h
      · simp at h
      · have := value.shorter ‹_›
        simp_all
        omega

/-- Takes in the members of an object to its end. What `slot` reads starts behind a key. -/
def members (slot : String → β → Reader β) (first : Bool) (acc : β) (bs : List UInt8) :
    Except Failure (β × List UInt8) :=
  match h : nextKey first bs with
  | .error f => .error f
  | .ok (none, rest) => .ok (acc, rest)
  | .ok (some key, rest) =>
    match hm : (slot key acc).read rest with
    | .error f => .error f
    | .ok (more, rest) =>
      have := nextKey_length h
      have := (slot key acc).shorter hm
      members slot false more rest
termination_by bs.length

theorem members_length {slot : String → β → Reader β} {first : Bool} {acc b : β}
    {bs rest : List UInt8} (h : members slot first acc bs = .ok (b, rest)) :
    rest.length < bs.length := by
  fun_induction members slot first acc bs with
  | case1 => simp at h
  | case2 first acc bs rest' hn =>
    have := nextKey_length hn
    simp_all
  | case3 => simp at h
  | case4 =>
    have := ‹_ → _› h
    omega

/-- An object of any names. -/
def table (value : Reader α) : Reader (List (String × α)) where
  read bs :=
    match skipBlank bs with
    | openBrace :: more =>
      match members (fun key acc => (value.member key).map fun a => (key, a) :: acc) true [] more with
      | .error f => .error f
      | .ok (entries, rest) => .ok (entries.reverse, rest)
    | other => .error (unexpected "a map" other)
  shorter := by
    intro bs b rest h
    have := skipBlank_length bs
    split at h
    · split at h
      · simp at h
      · have := members_length ‹_›
        simp_all
        omega
    · simp at h

/-! ## Records -/

/-- The text behind the brace that ends an object, when it is the next token. -/
def afterObject (bs : List UInt8) : List UInt8 :=
  match skipBlank bs with
  | closeBrace :: rest => rest
  | rest => rest

/-- The text behind the end of a list, or behind the comma, when one of them is the next token. -/
def afterList (bs : List UInt8) : List UInt8 :=
  match skipBlank bs with
  | closeBracket :: rest => rest
  | comma :: rest => skipBlank rest
  | rest => rest

/-- Fails where a member is met again. -/
def again (name : String) : Reader α where
  read bs := .error (.before (afterObject bs) (.mismatch (.repeated name)))
  shorter := by simp

/-- The end of a list of which all elements are read. -/
def listEnd : Reader Unit where
  read bs :=
    match skipBlank bs with
    | [] => .error (.before [] .endInList)
    | b :: more =>
      if b = closeBracket then .ok ((), more)
      else if b = comma then
        match skipBlank more with
        | closeBracket :: after => .error (.here (closeBracket :: after) .trailingComma)
        | other => .error (.here other .trailingCharacters)
      else .error (.here (b :: more) .trailingCharacters)
  shorter := by
    intro bs a rest h
    have hs := skipBlank_length bs
    split at h
    · simp at h
    · rename_i b more hb
      rw [hb, List.length_cons] at hs
      split at h
      · cases h
        omega
      · split at h
        · split at h <;> simp at h
        · simp at h

/-- One member of a record that is written as a list, and then the others. At the end of the list
the member is `absent`, if it may be. -/
def element (expected : String) (index : Nat) (value : Reader α) (absent : Option α)
    (others : Reader β) : Reader (α × β) where
  read bs :=
    match nextItem (index == 0) bs with
    | .error f => .error (f.inside (.element index))
    | .ok (.close _) =>
      match absent with
      | none => .error (.before (afterList bs) (.mismatch (.wrongLength index expected)))
      | some a => (others.map (a, ·)).read bs
    | .ok (.item rest) =>
      match value.read rest with
      | .error f => .error (f.inside (.element index))
      | .ok (a, rest) => (others.map (a, ·)).read rest
  shorter := by
    intro bs a rest h
    split at h
    · simp at h
    · split at h
      · simp at h
      · exact (others.map _).shorter h
    · have := nextItem_item ‹_›
      split at h
      · simp at h
      · have := value.shorter ‹_›
        have := (others.map _).shorter h
        omega

/-- The value of a member, as its presence allows. -/
def ofPresence : (p : Presence) → Reader α → Reader (p.Val α)
  | .required, r => r
  | .nullable, r => r.nullable
  | .defaulted, r => r.map some

/-- The value of a member for which the list has no place, if it may be absent. -/
def absent? : (p : Presence) → Option (p.Val α)
  | .required => none
  | .nullable => none
  | .defaulted => some none

/-- A record as an object or as a list. -/
def record (name : String) (ms : Members) (slot : String → ms.Slots → Reader ms.Slots)
    (elements : Reader ms.Val) : Reader ms.Val where
  read bs :=
    match skipBlank bs with
    | openBrace :: more =>
      match members slot true ms.unfilled more with
      | .error f => .error f
      | .ok (slots, rest) =>
        match ms.collect slots with
        | .error m => .error (.before rest (.mismatch m))
        | .ok value => .ok (value, rest)
    | openBracket :: more => elements.read more
    | other => .error (unexpected ("struct " ++ name) other)
  shorter := by
    intro bs b rest h
    have := skipBlank_length bs
    split at h
    · split at h
      · simp at h
      · have := members_length ‹_›
        split at h <;> simp_all
        omega
    · have := elements.shorter h
      simp_all
      omega
    · simp at h

mutual

/-- A value of a shape. -/
def ofShape : (s : Shape) → Reader s.Val
  | .text => text
  | .natural => natural
  | .tally => tally
  | .list item => (ofShape item).list
  | .table item => (ofShape item).table
  | .record name ms => record name ms (slot ms) (elements ms (ms.expectedList name) 0)

/-- What follows a key in a record: the value of that member, if it is one. -/
def slot : (ms : Members) → String → ms.Slots → Reader ms.Slots
  | .nil, key, () => skip.member key
  | .cons name presence shape others, key, (known, slots) =>
    if key = name then
      match known with
      | some _ => again name
      | none => ((ofPresence presence (ofShape shape)).member key).map fun v => (some v, slots)
    else (slot others key slots).map (known, ·)

/-- The members of a record that is written as a list, from the one of the given index on. -/
def elements : (ms : Members) → (expected : String) → (index : Nat) → Reader ms.Val
  | .nil, _, _ => listEnd
  | .cons _ presence shape others, expected, index =>
    element expected index (ofPresence presence (ofShape shape)) (absent? presence)
      (elements others expected (index + 1))

end

end Reader

/-- Reads the front of a text as a value of a shape; what follows the value is not looked at. -/
def readFront (s : Shape) (text : List UInt8) : Except Error s.Val :=
  match (Reader.ofShape s).read text with
  | .error f => .error (f.inText text)
  | .ok (value, _) => .ok value

/-- Reads a text as a value of a shape. -/
def read (s : Shape) (text : List UInt8) : Except Error s.Val :=
  match (Reader.ofShape s).read text with
  | .error f => .error (f.inText text)
  | .ok (value, rest) =>
    match skipBlank rest with
    | [] => .ok value
    | rest => .error ((Failure.here rest .trailingCharacters).inText text)

end ForgeBridge.Json
