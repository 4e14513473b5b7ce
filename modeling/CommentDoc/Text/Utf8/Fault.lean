import CommentDoc.Text.Quoted
import CommentDoc.Text.Utf8

namespace CommentDoc.Text.Utf8

inductive FaultKind where
  | start
  | continuation
  | ending
deriving DecidableEq, Repr

def FaultKind.reason : FaultKind → String
  | .start => "invalid start byte"
  | .continuation => "invalid continuation byte"
  | .ending => "unexpected end of data"

structure Fault where
  position : Nat
  octets : Octets
  kind : FaultKind
deriving DecidableEq, Repr

def Fault.message (f : Fault) : String :=
  let place :=
    match f.octets with
    | [b] =>
      "byte 0x" ++ String.ofList (Quoted.hex 2 b.toNat) ++ " in position " ++ toString f.position
    | _ =>
      "bytes in position " ++ toString f.position ++ "-" ++
        toString (f.position + f.octets.length - 1)
  "'utf-8' codec can't decode " ++ place ++ ": " ++ f.kind.reason

def faultFrom (position : Nat) (seen : Octets) : State → Octets → Option Fault
  | .idle, [] => none
  | .inside .., [] => some ⟨position, seen, .ending⟩
  | .idle, b :: bs =>
    if b < 0x80 then faultFrom (position + 1) [] .idle bs
    else
      match (first b).2 with
      | .idle => some ⟨position, [b], .start⟩
      | next => faultFrom position [b] next bs
  | .inside missing lo hi code, b :: bs =>
    if lo ≤ b ∧ b ≤ hi then
      match (step (.inside missing lo hi code) b).2 with
      | .idle => faultFrom (position + seen.length + 1) [] .idle bs
      | next => faultFrom position (seen ++ [b]) next bs
    else some ⟨position, seen, .continuation⟩

def fault? (bs : Octets) : Option Fault :=
  faultFrom 0 [] .idle bs

def read (bs : Octets) : Except Fault (List Char) :=
  match fault? bs with
  | some fault => .error fault
  | none => .ok (decode bs)

end CommentDoc.Text.Utf8
