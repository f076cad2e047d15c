import Intake.Json.Reader.Basic

namespace Intake.Json

def hexValue? (c : Char) : Option Nat :=
  if '0' ≤ c && c ≤ '9' then some (c.toNat - 48)
  else if 'a' ≤ c && c ≤ 'f' then some (c.toNat - 87)
  else if 'A' ≤ c && c ≤ 'F' then some (c.toNat - 55)
  else none

/-- Four hexadecimal digits; exactly four bytes are looked at. -/
def readHex (cs : List Char) : Except Stop (Nat × List Char) :=
  if shorterThan 4 cs then .error (.atEnd .endInString)
  else
    match cs with
    | a :: b :: c :: d :: rest =>
      match hexValue? a, hexValue? b, hexValue? c, hexValue? d with
      | some a, some b, some c, some d => .ok (((a * 16 + b) * 16 + c) * 16 + d, rest)
      | _, _, _, _ => .error (.inside .invalidEscape 4 cs)
    | _ => .error (.inside .invalidEscape 4 cs)

theorem length_readHex_le {cs rest : List Char} {n : Nat} (h : readHex cs = .ok (n, rest)) :
    rest.length ≤ cs.length := by
  unfold readHex at h
  split at h
  · simp at h
  · split at h
    · split at h
      · simp only [Except.ok.injEq, Prod.mk.injEq] at h
        simp only [← h.2, List.length_cons]
        omega
      · simp at h
    · simp at h

/-- The second half of a pair of surrogates, whose first half is `lead`. -/
def readTrail (lead : Nat) (cs : List Char) : Except Stop (Char × List Char) :=
  match cs with
  | [] => .error (.atEnd .endInString)
  | '\\' :: rest =>
    match rest with
    | [] => .error (.atEnd .endInString)
    | 'u' :: rest => do
      let (trail, rest) ← readHex rest
      if trail < 0xDC00 || 0xDFFF < trail then .error (.before .loneSurrogate rest)
      else return (Char.ofNat (0x10000 + (lead - 0xD800) * 0x400 + (trail - 0xDC00)), rest)
    | _ => .error (.onByte .unfinishedSurrogate rest)
  | _ => .error (.onByte .unfinishedSurrogate cs)

def readUnicode (cs : List Char) : Except Stop (Char × List Char) := do
  let (n, rest) ← readHex cs
  if 0xDC00 ≤ n && n ≤ 0xDFFF then .error (.before .loneSurrogate rest)
  else if 0xD800 ≤ n && n ≤ 0xDBFF then readTrail n rest
  else return (Char.ofNat n, rest)

def readEscape (cs : List Char) : Except Stop (Char × List Char) :=
  match cs with
  | [] => .error (.atEnd .endInString)
  | '"' :: rest => .ok ('"', rest)
  | '\\' :: rest => .ok ('\\', rest)
  | '/' :: rest => .ok ('/', rest)
  | 'b' :: rest => .ok ('\x08', rest)
  | 'f' :: rest => .ok ('\x0c', rest)
  | 'n' :: rest => .ok ('\n', rest)
  | 'r' :: rest => .ok ('\r', rest)
  | 't' :: rest => .ok ('\t', rest)
  | 'u' :: rest => readUnicode rest
  | _ => .error (.onByte .invalidEscape cs)

theorem length_readTrail_le {lead : Nat} {cs rest : List Char} {c : Char}
    (h : readTrail lead cs = .ok (c, rest)) : rest.length ≤ cs.length := by
  unfold readTrail at h
  split at h
  · simp at h
  · split at h
    · simp at h
    · rename_i r
      cases hx : readHex r with
      | error s => simp [hx, bind, Except.bind] at h
      | ok p =>
        have := length_readHex_le hx
        simp only [hx, bind, Except.bind] at h
        split at h
        · simp at h
        · simp only [pure, Except.pure, Except.ok.injEq, Prod.mk.injEq] at h
          simp only [← h.2, List.length_cons]
          omega
    · simp at h
  · simp at h

theorem length_readUnicode_le {cs rest : List Char} {c : Char}
    (h : readUnicode cs = .ok (c, rest)) : rest.length ≤ cs.length := by
  unfold readUnicode at h
  cases hx : readHex cs with
  | error s => simp [hx, bind, Except.bind] at h
  | ok p =>
    have := length_readHex_le hx
    simp only [hx, bind, Except.bind] at h
    split at h
    · simp at h
    · split at h
      · have := length_readTrail_le h
        omega
      · simp only [pure, Except.pure, Except.ok.injEq, Prod.mk.injEq] at h
        simp only [← h.2]
        omega

theorem length_readEscape_le {cs rest : List Char} {c : Char}
    (h : readEscape cs = .ok (c, rest)) : rest.length ≤ cs.length := by
  unfold readEscape at h
  split at h
  case h_10 => have := length_readUnicode_le h; simp only [List.length_cons]; omega
  all_goals simp_all

/-- The text of a string behind its opening quote; `acc` holds the characters read so far, last
one first. -/
def readString (acc cs : List Char) : Except Stop (String × List Char) :=
  match cs with
  | [] => .error (.atEnd .endInString)
  | c :: rest =>
    if c = '"' then .ok (String.ofList acc.reverse, rest)
    else if c = '\\' then
      match h : readEscape rest with
      | .ok (e, rest') =>
        have := length_readEscape_le h
        readString (e :: acc) rest'
      | .error s => .error s
    else if c.toNat < 0x20 then .error (.before .controlCharacter rest)
    else readString (c :: acc) rest
termination_by cs.length
decreasing_by all_goals simp only [List.length_cons]; omega

theorem length_readString_lt {acc cs rest : List Char} {s : String}
    (h : readString acc cs = .ok (s, rest)) : rest.length < cs.length := by
  fun_induction readString acc cs with
  | case1 => simp at h
  | case2 acc r => simp_all
  | case3 acc r _ e rest' _ hlen ih =>
    have := ih h
    simp only [List.length_cons]
    omega
  | case4 => simp at h
  | case5 => simp at h
  | case6 acc c r _ _ _ ih =>
    have := ih h
    simp only [List.length_cons]
    omega

end Intake.Json
