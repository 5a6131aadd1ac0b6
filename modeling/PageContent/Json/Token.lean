import PageContent.Json.Value

namespace PageContent.Json

inductive Token
  | openArray
  | closeArray
  | openObject
  | closeObject
  | comma
  | colon
  | string (s : Quoted)
  | scalar (v : Value)

namespace Token

def hexDigit? (c : Char) : Option Nat :=
  if c.isDigit then some (c.toNat - '0'.toNat)
  else if 'a' ≤ c ∧ c ≤ 'f' then some (c.toNat - 'a'.toNat + 10)
  else if 'A' ≤ c ∧ c ≤ 'F' then some (c.toNat - 'A'.toNat + 10)
  else none

def unit? (a b c d : Char) : Option Nat := do
  pure (((← hexDigit? a) * 16 + (← hexDigit? b)) * 256 + (← hexDigit? c) * 16 + (← hexDigit? d))

def escape? : Char → Option Char
  | '"' => some '"'
  | '\\' => some '\\'
  | '/' => some '/'
  | 'b' => some '\x08'
  | 'f' => some '\x0c'
  | 'n' => some '\n'
  | 'r' => some '\r'
  | 't' => some '\t'
  | _ => none

def quoted? : List Char → Option (Quoted × List Char)
  | [] => none
  | '"' :: rest => some ([], rest)
  | '\\' :: 'u' :: a :: b :: c :: d :: rest =>
    match unit? a b c d, quoted? rest with
    | some u, some (s, rest) => some (.unit u :: s, rest)
    | _, _ => none
  | '\\' :: e :: rest =>
    match escape? e, quoted? rest with
    | some c, some (s, rest) => some (.char c :: s, rest)
    | _, _ => none
  | c :: rest =>
    if c.toNat < 0x20 ∨ c = '\\' then none
    else
      match quoted? rest with
      | some (s, rest) => some (.char c :: s, rest)
      | none => none

def digits (s : List Char) : List Nat := (s.takeWhile Char.isDigit).map fun c => c.toNat - '0'.toNat

def afterDigits (s : List Char) : List Char := s.dropWhile Char.isDigit

def whole? : List Char → Option (List Nat × List Char)
  | '0' :: rest => some ([0], rest)
  | s => if (digits s).isEmpty then none else some (digits s, afterDigits s)

def fraction? : List Char → Option (Option (List Nat) × List Char)
  | '.' :: s => if (digits s).isEmpty then none else some (some (digits s), afterDigits s)
  | s => some (none, s)

def exponentDigits? (negative : Bool) (s : List Char) : Option (Option (Bool × List Nat) × List Char) :=
  if (digits s).isEmpty then none else some (some (negative, digits s), afterDigits s)

def exponent? : List Char → Option (Option (Bool × List Nat) × List Char)
  | e :: s =>
    if e = 'e' ∨ e = 'E' then
      match s with
      | '+' :: s => exponentDigits? false s
      | '-' :: s => exponentDigits? true s
      | s => exponentDigits? false s
    else some (none, e :: s)
  | [] => some (none, [])

def unsigned? (negative : Bool) (s : List Char) : Option (Number × List Char) := do
  let (whole, s) ← whole? s
  let (fraction, s) ← fraction? s
  let (exponent, s) ← exponent? s
  pure (⟨negative, whole, fraction, exponent⟩, s)

def number? : List Char → Option (Number × List Char)
  | '-' :: s => unsigned? true s
  | s => unsigned? false s

def isBlank (c : Char) : Bool := c = ' ' || c = '\n' || c = '\r' || c = '\t'

def next? : List Char → Option (Token × List Char)
  | '[' :: s => some (.openArray, s)
  | ']' :: s => some (.closeArray, s)
  | '{' :: s => some (.openObject, s)
  | '}' :: s => some (.closeObject, s)
  | ',' :: s => some (.comma, s)
  | ':' :: s => some (.colon, s)
  | '"' :: s => (quoted? s).map fun (q, s) => (.string q, s)
  | 'n' :: 'u' :: 'l' :: 'l' :: s => some (.scalar .null, s)
  | 't' :: 'r' :: 'u' :: 'e' :: s => some (.scalar (.bool true), s)
  | 'f' :: 'a' :: 'l' :: 's' :: 'e' :: s => some (.scalar (.bool false), s)
  | s => (number? s).map fun (n, s) => (.scalar (.number n), s)

theorem length_afterDigits {s : List Char} (h : (digits s).isEmpty = false) :
    (afterDigits s).length < s.length := by
  have hs : (s.takeWhile Char.isDigit).length + (afterDigits s).length = s.length := by
    rw [afterDigits, ← List.length_append, List.takeWhile_append_dropWhile]
  have hd : 0 < (s.takeWhile Char.isDigit).length := by
    rw [List.length_pos_iff]
    intro he
    simp [digits, he] at h
  omega

theorem length_quoted? {s : List Char} {q : Quoted} {rest : List Char} (h : quoted? s = some (q, rest)) :
    rest.length < s.length := by
  fun_induction quoted? s generalizing q rest with
  | case1 => simp at h
  | case2 => simp_all
  | case3 a b c d t u s r hs _ ih =>
    obtain ⟨-, rfl⟩ := Prod.mk.injEq .. ▸ Option.some.injEq .. ▸ h
    have := ih hs
    simp only [List.length_cons]
    omega
  | case4 => simp at h
  | case5 e t _ c s r hs _ ih =>
    obtain ⟨-, rfl⟩ := Prod.mk.injEq .. ▸ Option.some.injEq .. ▸ h
    have := ih hs
    simp only [List.length_cons]
    omega
  | case6 => simp at h
  | case7 => simp at h
  | case8 c t _ _ _ _ s r hs ih =>
    obtain ⟨-, rfl⟩ := Prod.mk.injEq .. ▸ Option.some.injEq .. ▸ h
    have := ih hs
    simp only [List.length_cons]
    omega
  | case9 => simp at h

theorem length_whole? {s : List Char} {w : List Nat} {rest : List Char} (h : whole? s = some (w, rest)) :
    rest.length < s.length := by
  unfold whole? at h
  split at h
  · grind
  · split at h
    · simp at h
    · next hd =>
      obtain ⟨-, rfl⟩ := Prod.mk.injEq .. ▸ Option.some.injEq .. ▸ h
      exact length_afterDigits (by simpa using hd)

theorem length_fraction? {s : List Char} {f : Option (List Nat)} {rest : List Char}
    (h : fraction? s = some (f, rest)) : rest.length ≤ s.length := by
  unfold fraction? at h
  split at h
  · next t =>
    split at h
    · simp at h
    · next hd =>
      obtain ⟨-, rfl⟩ := Prod.mk.injEq .. ▸ Option.some.injEq .. ▸ h
      have := length_afterDigits (s := t) (by simpa using hd)
      simp only [List.length_cons]
      omega
  · grind

theorem length_exponentDigits? {b : Bool} {s : List Char} {e : Option (Bool × List Nat)} {rest : List Char}
    (h : exponentDigits? b s = some (e, rest)) : rest.length ≤ s.length := by
  unfold exponentDigits? at h
  split at h
  · simp at h
  · next hd =>
    obtain ⟨-, rfl⟩ := Prod.mk.injEq .. ▸ Option.some.injEq .. ▸ h
    exact Nat.le_of_lt (length_afterDigits (by simpa using hd))

theorem length_exponent? {s : List Char} {e : Option (Bool × List Nat)} {rest : List Char}
    (h : exponent? s = some (e, rest)) : rest.length ≤ s.length := by
  unfold exponent? at h
  split at h
  · split at h
    · split at h <;> have := length_exponentDigits? h <;> simp only [List.length_cons] at * <;> omega
    · grind
  · grind

theorem length_unsigned? {b : Bool} {s : List Char} {n : Number} {rest : List Char}
    (h : unsigned? b s = some (n, rest)) : rest.length < s.length := by
  simp only [unsigned?, Option.bind_eq_bind, Option.bind_eq_some_iff, Option.pure_def, Option.some.injEq,
    Prod.mk.injEq] at h
  obtain ⟨⟨w, s₁⟩, hw, ⟨f, s₂⟩, hf, ⟨e, s₃⟩, he, -, rfl⟩ := h
  have := length_whole? hw
  have := length_fraction? hf
  have := length_exponent? he
  dsimp only at *
  omega

theorem length_number? {s : List Char} {n : Number} {rest : List Char} (h : number? s = some (n, rest)) :
    rest.length < s.length := by
  unfold number? at h
  split at h
  · have := length_unsigned? h
    simp only [List.length_cons]
    omega
  · exact length_unsigned? h

theorem length_next? {s : List Char} {t : Token} {rest : List Char} (h : next? s = some (t, rest)) :
    rest.length < s.length := by
  unfold next? at h
  split at h
  case h_7 =>
    obtain ⟨⟨q, r⟩, hq, he⟩ := Option.map_eq_some_iff.1 h
    obtain ⟨-, rfl⟩ := Prod.mk.injEq .. ▸ he
    have := length_quoted? hq
    simp only [List.length_cons]
    omega
  case h_11 =>
    obtain ⟨⟨n, r⟩, hn, he⟩ := Option.map_eq_some_iff.1 h
    obtain ⟨-, rfl⟩ := Prod.mk.injEq .. ▸ he
    exact length_number? hn
  all_goals grind

def scan (s : List Char) : Option (List Token) :=
  match s with
  | [] => some []
  | c :: rest =>
    if isBlank c then scan rest
    else
      match _ : next? (c :: rest) with
      | none => none
      | some (t, s') => (scan s').map (t :: ·)
termination_by s.length
decreasing_by
  · simp
  · exact length_next? ‹_›

end Token

end PageContent.Json
