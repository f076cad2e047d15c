import Intake.Json.Basic
import Intake.Json.Reader.Text

namespace Intake.Json

def readItems (item : Reader Json) (acc : List Json) (cs : List Char) :
    Except Stop (Json × List Char) :=
  match h : skipSpace cs with
  | [] => .error (.atEnd .endInList)
  | c :: rest =>
    if c = ']' then .ok (.arr acc.reverse, rest)
    else if c = ',' then
      if (skipSpace rest).head? = some ']' then .error (.onByte .trailingComma (skipSpace rest))
      else
        match hv : item.run rest with
        | .ok (v, rest') =>
          have := item.takes hv
          have := length_skipSpace_le cs
          have : (skipSpace cs).length = rest.length + 1 := by simp [h]
          readItems item (v :: acc) rest'
        | .error s => .error s
    else .error (.onByte .expectedListEnd (c :: rest))
termination_by cs.length
decreasing_by omega

def readArray (item : Reader Json) (cs : List Char) : Except Stop (Json × List Char) :=
  match skipSpace cs with
  | [] => .error (.atEnd .endInList)
  | c :: rest =>
    if c = ']' then .ok (.arr [], rest)
    else
      match item.run (c :: rest) with
      | .ok (v, rest') => readItems item [v] rest'
      | .error s => .error s

def readMember (item : Reader Json) (cs : List Char) : Except Stop ((String × Json) × List Char) :=
  match readString [] cs with
  | .error s => .error s
  | .ok (key, rest) =>
    match skipSpace rest with
    | [] => .error (.atEnd .endInObject)
    | c :: rest =>
      if c = ':' then
        match item.run rest with
        | .ok (v, rest) => .ok ((key, v), rest)
        | .error s => .error s
      else .error (.onByte .expectedColon (c :: rest))

theorem length_readMember_lt {item : Reader Json} {cs rest : List Char} {m : String × Json}
    (h : readMember item cs = .ok (m, rest)) : rest.length < cs.length := by
  unfold readMember at h
  cases hk : readString [] cs with
  | error s => simp [hk] at h
  | ok p =>
    have h1 := length_readString_lt hk
    have h2 := length_skipSpace_le p.2
    simp only [hk] at h
    split at h
    · simp at h
    · rename_i c r hs
      split at h
      · cases hv : item.run r with
        | error s => simp [hv] at h
        | ok q =>
          have h3 := item.takes hv
          simp only [hv, Except.ok.injEq, Prod.mk.injEq] at h
          simp only [hs, List.length_cons] at h2
          rw [← h.2]
          omega
      · simp at h

/-- The members behind the first one, up to the closing brace. A repeated key keeps the value
read last. -/
def readMembers (item : Reader Json) (acc : Members) (cs : List Char) :
    Except Stop (Json × List Char) :=
  match h : skipSpace cs with
  | [] => .error (.atEnd .endInObject)
  | c :: rest =>
    if c = '\x7d' then .ok (.obj acc, rest)
    else if c = ',' then
      match h' : skipSpace rest with
      | [] => .error (.atEnd .endInValue)
      | c' :: rest' =>
        if c' = '"' then
          match hm : readMember item rest' with
          | .ok (m, rest'') =>
            have := length_readMember_lt hm
            have := length_skipSpace_le cs
            have : (skipSpace cs).length = rest.length + 1 := by simp [h]
            have := length_skipSpace_le rest
            have : (skipSpace rest).length = rest'.length + 1 := by simp [h']
            readMembers item (Members.insert m.1 m.2 acc) rest''
          | .error s => .error s
        else if c' = '\x7d' then .error (.onByte .trailingComma (c' :: rest'))
        else .error (.onByte .expectedKey (c' :: rest'))
    else .error (.onByte .expectedObjectEnd (c :: rest))
termination_by cs.length
decreasing_by omega

def readObject (item : Reader Json) (cs : List Char) : Except Stop (Json × List Char) :=
  match skipSpace cs with
  | [] => .error (.atEnd .endInObject)
  | c :: rest =>
    if c = '\x7d' then .ok (.obj [], rest)
    else if c = '"' then
      match readMember item rest with
      | .ok (m, rest') => readMembers item [m] rest'
      | .error s => .error s
    else .error (.onByte .expectedKey (c :: rest))

theorem length_readItems_lt {item : Reader Json} {acc : List Json} {cs rest : List Char} {v : Json}
    (h : readItems item acc cs = .ok (v, rest)) : rest.length < cs.length := by
  fun_induction readItems item acc cs with
  | case1 => simp at h
  | case2 acc cs r hs =>
    have := length_skipSpace_le cs
    simp only [Except.ok.injEq, Prod.mk.injEq] at h
    simp only [hs, List.length_cons] at this
    rw [← h.2]
    omega
  | case3 => simp at h
  | case4 acc cs r hs _ _ v' rest' hv h1 h2 h3 ih =>
    have := ih h
    omega
  | case5 => simp at h
  | case6 => simp at h

theorem length_readArray_lt {item : Reader Json} {cs rest : List Char} {v : Json}
    (h : readArray item cs = .ok (v, rest)) : rest.length < cs.length := by
  have hs := length_skipSpace_le cs
  unfold readArray at h
  split at h
  · simp at h
  · rename_i c r hc
    simp only [hc, List.length_cons] at hs
    split at h
    · simp only [Except.ok.injEq, Prod.mk.injEq] at h
      rw [← h.2]
      omega
    · cases hv : item.run (c :: r) with
      | error s => simp [hv] at h
      | ok p =>
        have h1 := item.takes hv
        simp only [hv] at h
        have h2 := length_readItems_lt h
        simp only [List.length_cons] at h1
        omega

theorem length_readMembers_lt {item : Reader Json} {acc : Members} {cs rest : List Char} {v : Json}
    (h : readMembers item acc cs = .ok (v, rest)) : rest.length < cs.length := by
  fun_induction readMembers item acc cs with
  | case2 acc cs r hs =>
    have := length_skipSpace_le cs
    simp only [Except.ok.injEq, Prod.mk.injEq] at h
    simp only [hs, List.length_cons] at this
    rw [← h.2]
    omega
  | case4 =>
    rename_i ih
    have := ih h
    omega
  | _ => simp at h

theorem length_readObject_lt {item : Reader Json} {cs rest : List Char} {v : Json}
    (h : readObject item cs = .ok (v, rest)) : rest.length < cs.length := by
  have hs := length_skipSpace_le cs
  unfold readObject at h
  split at h
  · simp at h
  · rename_i c r hc
    simp only [hc, List.length_cons] at hs
    split at h
    · simp only [Except.ok.injEq, Prod.mk.injEq] at h
      rw [← h.2]
      omega
    · split at h
      · cases hm : readMember item r with
        | error s => simp [hm] at h
        | ok p =>
          have h1 := length_readMember_lt hm
          simp only [hm] at h
          have h2 := length_readMembers_lt h
          omega
      · simp at h

end Intake.Json
