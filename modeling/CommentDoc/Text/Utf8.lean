/-! Reading UTF-8 octet by octet: every maximal invalid part of the input becomes one replacement
character. -/

namespace CommentDoc.Text.Utf8

abbrev Octets := List UInt8

def replacement : Char :=
  '\uFFFD'

/-- The reader's state: between characters, or inside one whose next octet must lie in `lo ..=
hi`. -/
inductive State where
  | idle
  | inside (missing : Nat) (lo hi : UInt8) (code : Nat)
deriving DecidableEq

def first (b : UInt8) : List Char × State :=
  if b < 0x80 then ([Char.ofNat b.toNat], .idle)
  else if b < 0xC2 then ([replacement], .idle)
  else if b < 0xE0 then ([], .inside 1 0x80 0xBF (b.toNat - 0xC0))
  else if b < 0xF0 then
    let lo := if b = 0xE0 then 0xA0 else 0x80
    let hi := if b = 0xED then 0x9F else 0xBF
    ([], .inside 2 lo hi (b.toNat - 0xE0))
  else if b < 0xF5 then
    let lo := if b = 0xF0 then 0x90 else 0x80
    let hi := if b = 0xF4 then 0x8F else 0xBF
    ([], .inside 3 lo hi (b.toNat - 0xF0))
  else ([replacement], .idle)

def step : State → UInt8 → List Char × State
  | .idle, b => first b
  | .inside missing lo hi code, b =>
    if lo ≤ b ∧ b ≤ hi then
      let code := code * 64 + (b.toNat - 0x80)
      if missing ≤ 1 then ([Char.ofNat code], .idle)
      else ([], .inside (missing - 1) 0x80 0xBF code)
    else
      let (out, next) := first b
      (replacement :: out, next)

def finish : State → List Char
  | .idle => []
  | .inside .. => [replacement]

def decodeFrom : State → Octets → List Char
  | s, [] => finish s
  | s, b :: bs => (step s b).1 ++ decodeFrom (step s b).2 bs

def decode (bs : Octets) : List Char :=
  decodeFrom .idle bs

def encode (s : List Char) : Octets :=
  s.flatMap String.utf8EncodeChar

end CommentDoc.Text.Utf8
