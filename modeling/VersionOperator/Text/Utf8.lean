namespace VersionOperator.Text

def readUtf8? (bytes : List UInt8) : Option String :=
  String.fromUTF8? ⟨bytes.toArray⟩

/-- The bytes that may follow the first byte of a character: for each of them its least and its
greatest value. No entry for a byte that starts no character. -/
def followers? (first : Nat) : Option (List (Nat × Nat)) :=
  if first < 0x80 then some []
  else if first < 0xC2 then none
  else if first < 0xE0 then some [(0x80, 0xBF)]
  else if first = 0xE0 then some [(0xA0, 0xBF), (0x80, 0xBF)]
  else if first = 0xED then some [(0x80, 0x9F), (0x80, 0xBF)]
  else if first < 0xF0 then some [(0x80, 0xBF), (0x80, 0xBF)]
  else if first = 0xF0 then some [(0x90, 0xBF), (0x80, 0xBF), (0x80, 0xBF)]
  else if first < 0xF4 then some [(0x80, 0xBF), (0x80, 0xBF), (0x80, 0xBF)]
  else if first = 0xF4 then some [(0x80, 0x8F), (0x80, 0xBF), (0x80, 0xBF)]
  else none

/-- The number of leading bytes that lie in the given ranges, one after the other. -/
def fitting : List (Nat × Nat) → List UInt8 → Nat
  | (low, high) :: ranges, byte :: bytes =>
    if low ≤ byte.toNat ∧ byte.toNat ≤ high then fitting ranges bytes + 1 else 0
  | _, _ => 0

def codePoint (first : Nat) (rest : List UInt8) : Nat :=
  let lead :=
    if first < 0x80 then first
    else if first < 0xE0 then first % 0x20
    else if first < 0xF0 then first % 0x10
    else first % 0x8
  rest.foldl (fun value byte => value * 0x40 + byte.toNat % 0x40) lead

def readUtf8Lenient (bytes : List UInt8) : List Char :=
  match bytes with
  | [] => []
  | first :: rest =>
    match followers? first.toNat with
    | none => '\ufffd' :: readUtf8Lenient rest
    | some ranges =>
      let count := fitting ranges rest
      let char :=
        if count = ranges.length then Char.ofNat (codePoint first.toNat (rest.take count))
        else '\ufffd'
      char :: readUtf8Lenient (rest.drop count)
termination_by bytes.length
decreasing_by all_goals simp only [List.length_cons, List.length_drop]; omega

end VersionOperator.Text
