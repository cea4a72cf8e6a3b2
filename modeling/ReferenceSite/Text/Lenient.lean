/-! Bytes as text, whatever they are. Where bytes are no well-formed text, as many of them as could
begin a character become one replacement character. -/
namespace ReferenceSite.Text

/-- The ranges of the bytes that follow a first byte. No range follows a byte that cannot be first. -/
def followers (first : Nat) : List (Nat × Nat) :=
  if 0xC2 ≤ first ∧ first ≤ 0xDF then [(0x80,0xBF)]
  else if first = 0xE0 then [(0xA0,0xBF),(0x80,0xBF)]
  else if first = 0xED then [(0x80,0x9F),(0x80,0xBF)]
  else if 0xE1 ≤ first ∧ first ≤ 0xEF then [(0x80,0xBF),(0x80,0xBF)]
  else if first = 0xF0 then [(0x90,0xBF),(0x80,0xBF),(0x80,0xBF)]
  else if 0xF1 ≤ first ∧ first ≤ 0xF3 then [(0x80,0xBF),(0x80,0xBF),(0x80,0xBF)]
  else if first = 0xF4 then [(0x80,0x8F),(0x80,0xBF),(0x80,0xBF)]
  else []

def matching : List (Nat × Nat) → List Nat → List Nat
  | (low,high) :: ranges,b :: bytes =>
    if low ≤ b ∧ b ≤ high then b :: matching ranges bytes else []
  | _,_ => []

def assembled (first : Nat) (following : List Nat) : Char :=
  .ofNat (following.foldl (fun n b => n * 64 + b % 64) (first % Nat.pow 2 (6 - following.length)))

def decodeLenient (bytes : List Nat) : List Char :=
  match bytes with
  | [] => []
  | first :: rest =>
    if first < 0x80 then .ofNat first :: decodeLenient rest
    else
      let following := matching (followers first) rest
      (if ¬ following.isEmpty ∧ following.length = (followers first).length then
        assembled first following else '\uFFFD') :: decodeLenient (rest.drop following.length)
termination_by bytes.length

end ReferenceSite.Text
