import ForgeBridge.Json.Scalar

/-!
Passing over a value of which nothing is kept. Values may be nested to any depth: the brackets that
are open are held in a list.
-/

namespace ForgeBridge.Json

open Ascii

/-- A bracket that is open. -/
inductive Frame where
  | list
  | object
deriving DecidableEq

/-- Passes over a word, a number or a string. -/
def skipScalar : List UInt8 → Except Failure (List UInt8)
  | [] => .error (.before [] .endInValue)
  | b :: bs =>
    if b = quote then skipString bs
    else if b = minus then skipNumber bs
    else if isDigit b then skipNumber (b :: bs)
    else if b = letterN then skipNull bs
    else if b = letterT then skipTrue bs
    else if b = letterF then skipFalse bs
    else .error (.here (b :: bs) .noValue)

theorem skipScalar_length {bs rest : List UInt8} (h : skipScalar bs = .ok rest) :
    rest.length < bs.length := by
  unfold skipScalar at h
  split at h
  · simp at h
  · simp only [List.length_cons]
    repeat' split at h
    · have := skipString_length h; omega
    · have := skipNumber_length h; omega
    · have := skipNumber_length h; simp at this; omega
    · have := skipWord_length h; omega
    · have := skipWord_length h; omega
    · have := skipWord_length h; omega
    · simp at h

/-- Passes over the colon behind a key. -/
def skipColon (bs : List UInt8) : Except Failure (List UInt8) :=
  match skipBlank bs with
  | [] => .error (.before [] .endInObject)
  | b :: bs => if b = colon then .ok bs else .error (.here (b :: bs) .noColon)

theorem skipColon_length {bs rest : List UInt8} (h : skipColon bs = .ok rest) :
    rest.length < bs.length := by
  have hs := skipBlank_length bs
  unfold skipColon at h
  split at h
  · simp at h
  · rename_i b more hb
    rw [hb, List.length_cons] at hs
    split at h
    · cases h
      omega
    · simp at h

/-- Passes over a key and its colon. -/
def skipKey (bs : List UInt8) : Except Failure (List UInt8) :=
  match skipBlank bs with
  | [] => .error (.before [] .endInObject)
  | b :: bs =>
    if b = quote then
      match skipString bs with
      | .error f => .error f
      | .ok rest => skipColon rest
    else .error (.here (b :: bs) .keyNotText)

theorem skipKey_length {bs rest : List UInt8} (h : skipKey bs = .ok rest) :
    rest.length < bs.length := by
  have := skipBlank_length bs
  unfold skipKey at h
  split at h
  · simp at h
  · split at h
    · split at h
      · simp at h
      · have := skipString_length ‹skipString _ = _›
        have := skipColon_length h
        simp_all
        omega
    · simp at h

/-- Passes over what comes before a value in a bracket: a key in an object, nothing in a list. -/
def Frame.lead : Frame → List UInt8 → Except Failure (List UInt8)
  | .list, bs => .ok bs
  | .object, bs => skipKey bs

theorem Frame.lead_length {f : Frame} {bs rest : List UInt8} (h : f.lead bs = .ok rest) :
    rest.length ≤ bs.length := by
  cases f with
  | list => simp_all [Frame.lead]
  | object => exact Nat.le_of_lt (skipKey_length h)

def Frame.close : Frame → UInt8
  | .list => closeBracket
  | .object => closeBrace

/-- The bracket that a byte opens. -/
def Frame.opened? (b : UInt8) : Option Frame :=
  if b = openBracket then some .list else if b = openBrace then some .object else none

/-- The text ends inside the bracket. -/
def Frame.ended : Frame → Cause
  | .list => .endInList
  | .object => .endInObject

/-- Neither a comma nor the end of the bracket. -/
def Frame.unclosed : Frame → Cause
  | .list => .noCommaOrBracket
  | .object => .noCommaOrBrace

mutual

/-- Passes over a value and then over the rest of the open brackets. -/
def skipValue (frames : List Frame) (bs : List UInt8) : Except Failure (List UInt8) :=
  match _hb : skipBlank bs with
  | [] => .error (.before [] .endInValue)
  | b :: more =>
    have := skipBlank_length bs
    match Frame.opened? b with
    | none =>
      match h : skipScalar (b :: more) with
      | .error f => .error f
      | .ok rest =>
        have := skipScalar_length h
        skipRest frames rest
    | some frame =>
      match _hm : skipBlank more with
      | [] => .error (.before [] frame.ended)
      | c :: after =>
        have := skipBlank_length more
        -- only at once may a bracket be closed without a value
        if c = frame.close then skipRest frames after
        else
          match h : frame.lead (c :: after) with
          | .error f => .error f
          | .ok rest =>
            have := Frame.lead_length h
            skipValue (frame :: frames) rest
termination_by bs.length
decreasing_by
  all_goals
    simp_all
    omega

/-- Passes over the rest of the open brackets, behind a value in the innermost of them. -/
def skipRest (frames : List Frame) (bs : List UInt8) : Except Failure (List UInt8) :=
  match frames with
  | [] => .ok bs
  | frame :: outer =>
    match _hb : skipBlank bs with
    | [] => .error (.before [] frame.ended)
    | b :: more =>
      have := skipBlank_length bs
      if b = comma then
        match h : frame.lead more with
        | .error f => .error f
        | .ok rest =>
          have := Frame.lead_length h
          skipValue (frame :: outer) rest
      else if b = frame.close then skipRest outer more
      else .error (.here (b :: more) frame.unclosed)
termination_by bs.length
decreasing_by all_goals simp_all <;> omega

end

mutual

theorem skipValue_length {frames : List Frame} {bs rest : List UInt8}
    (h : skipValue frames bs = .ok rest) : rest.length < bs.length := by
  have hs := skipBlank_length bs
  unfold skipValue at h
  split at h
  · simp at h
  · rename_i b more hb
    split at h
    · split at h
      · simp at h
      · have hl := skipScalar_length ‹skipScalar _ = _›
        have := skipRest_length h
        simp_all
        omega
    · split at h
      · simp at h
      · have hm := skipBlank_length more
        split at h
        · have := skipRest_length h
          simp_all
          omega
        · split at h
          · simp at h
          · have hl := Frame.lead_length ‹_ = Except.ok _›
            have := skipValue_length h
            simp_all
            omega
termination_by bs.length
decreasing_by
  all_goals
    simp_all
    omega

theorem skipRest_length {frames : List Frame} {bs rest : List UInt8}
    (h : skipRest frames bs = .ok rest) : rest.length ≤ bs.length := by
  have hs := skipBlank_length bs
  unfold skipRest at h
  split at h
  · simp_all
  · split at h
    · simp at h
    · rename_i b more hb
      split at h
      · split at h
        · simp at h
        · have hl := Frame.lead_length ‹_ = Except.ok _›
          have := skipValue_length h
          simp_all
          omega
      · split at h
        · have := skipRest_length h
          simp_all
          omega
        · simp at h
termination_by bs.length
decreasing_by all_goals simp_all <;> omega

end

/-- Passes over one value. -/
def skip : Reader Unit where
  read bs :=
    match skipValue [] bs with
    | .error f => .error f
    | .ok rest => .ok ((), rest)
  shorter := by
    intro bs a rest h
    split at h
    · simp at h
    · have := skipValue_length ‹_›
      simp_all

end ForgeBridge.Json
