import CommentDoc.Proofs.Run.Reading
import CommentDoc.Proofs.Source.Lines
import CommentDoc.Run.Scanner

/-! Whatever is done between two requests, a scanner goes on with the blocks that were upcoming
before. -/

namespace CommentDoc

namespace Reader

lemma drop_ahead (r : Reader) (disk : Disk) {offset : Nat} (h : r.offset ≤ offset) :
    (r.ahead disk).drop (r.fetched.length + (offset - r.offset)) = (disk.content r.identity).drop offset := by
  have ho : r.offset + (offset - r.offset) = offset := by omega
  rw [ahead, List.drop_length_add_append, List.drop_drop, ho]

lemma afterLines_eq_drop (n : Nat) (bs : Text.Utf8.Octets) :
    Source.afterLines n bs = bs.drop (bs.length - (Source.afterLines n bs).length) := by
  obtain ⟨done, hdone⟩ := Source.afterLines_suffix n bs
  have hlength : bs.length - (Source.afterLines n bs).length = done.length := by
    rw [← congrArg List.length hdone, List.length_append, Nat.add_sub_cancel]
  have hd := congrArg (List.drop done.length) hdone
  rw [List.drop_left] at hd
  rw [hlength, hd]

lemma ahead_afterLines (r : Reader) (disk : Disk) (n : Nat) :
    (r.afterLines disk n).ahead disk = Source.afterLines n (r.ahead disk) := by
  have hrest := afterLines_eq_drop n (r.ahead disk)
  have hle : (r.ahead disk).length - (Source.afterLines n (r.ahead disk)).length ≤ (r.ahead disk).length :=
    Nat.sub_le _ _
  have hahead : (r.ahead disk).length = r.fetched.length + ((disk.content r.identity).length - r.offset) := by
    simp [ahead]
  simp only [afterLines]
  generalize (r.ahead disk).length - (Source.afterLines n (r.ahead disk)).length = read at *
  generalize Source.afterLines n (r.ahead disk) = rest at *
  subst rest
  split
  next hr => simp [ahead, List.drop_append_of_le_length hr]
  next hr =>
    -- what is fetched in whole chunks reaches at least as far as the lines that were read
    have hchunks := Nat.lt_div_mul_add (a := read - r.fetched.length + chunk - 1) (b := chunk) (by decide)
    generalize (read - r.fetched.length + chunk - 1) / chunk * chunk = size at *
    generalize ho : min (r.offset + size) (disk.content r.identity).length = offset
    have hoffset : r.offset ≤ offset := by omega
    have hcover : read + (r.fetched.length + (offset - r.offset) - read) =
        r.fetched.length + (offset - r.offset) := by omega
    have hdrop := r.drop_ahead disk hoffset
    rw [← hcover, ← List.drop_drop] at hdrop
    rw [ahead, ← hdrop, List.take_append_drop]

end Reader

namespace Scan

variable {σ β : Type}

def visitAll (visit : σ → Found → σ × Option β) : σ → List Found → σ × Option β × List Found
  | state, [] => (state, none, [])
  | state, found :: rest =>
    match visit state found with
    | (state, some answer) => (state, some answer, rest)
    | (state, none) => visitAll visit state rest

lemma visitAll_singleton (visit : σ → Found → σ × Option β) (state : σ) (found : Found) :
    visitAll visit state [found] = ((visit state found).1, (visit state found).2, []) := by
  rcases hv : visit state found with ⟨state', _ | answer⟩ <;> simp [visitAll, hv]

lemma visitAll_left (visit : σ → Found → σ × Option β) (state : σ) (founds : List Found)
    (h : (visitAll visit state founds).2.1 = none) : (visitAll visit state founds).2.2 = [] := by
  induction founds generalizing state with
  | nil => rfl
  | cons found founds ih =>
    rw [visitAll] at h ⊢
    rcases hv : visit state found with ⟨state', _ | answer⟩
    · rw [hv] at h
      exact ih state' h
    · rw [hv] at h
      exact absurd h (by simp)

/-- A search through lines from number `n` on came to `r`, and what it left of the lines are the
blocks that `r` leaves. Without an answer it came to the end of the lines; with one it did so only
if they are whole. -/
structure Search.Gives (d : Delimiters) (whole : Bool) (n : Nat) (ls : List String) (s : Search σ β)
    (r : σ × Option β × List Found) : Prop where
  state : s.state = r.1
  answer : s.answer = r.2.1
  left : r.2.2 = if s.exhausted then [] else foundsFrom d whole (n + s.read) none (ls.drop s.read)
  exhausted : s.answer = none → s.exhausted = true
  whole : s.exhausted = true → s.answer ≠ none → whole = true

lemma Search.Gives.afterLine {d : Delimiters} {whole : Bool} {n : Nat} {ls : List String} {s : Search σ β}
    {r : σ × Option β × List Found} (h : s.Gives d whole (n + 1) ls r) (line : String) :
    s.afterLine.Gives d whole n (line :: ls) r := by
  have hread : n + (s.read + 1) = n + 1 + s.read := by omega
  refine ⟨h.state, h.answer, ?_, h.exhausted, h.whole⟩
  rw [h.left, Search.afterLine, hread, List.drop_succ_cons]

lemma seek_gives (d : Delimiters) (visit : σ → Found → σ × Option β) (whole : Bool) (state : σ) (n : Nat)
    (b : Option Draft) (ls : List String) :
    (seek d visit whole state n b ls).Gives d whole n ls
      (visitAll visit state (foundsFrom d whole n b ls)) := by
  induction ls generalizing state n b with
  | nil =>
    cases b with
    | none =>
      rw [foundsFrom_nil]
      exact ⟨rfl, rfl, rfl, fun _ => rfl, fun _ h => absurd rfl h⟩
    | some b =>
      cases whole with
      | false => exact ⟨rfl, rfl, rfl, fun _ => rfl, fun _ h => absurd rfl h⟩
      | true =>
        have hb : foundsFrom d true n (some b) [] = [b.finish] := rfl
        rw [hb, visitAll_singleton]
        exact ⟨rfl, rfl, rfl, fun _ => rfl, fun _ _ => rfl⟩
  | cons line ls ih =>
    cases b with
    | none =>
      rw [foundsFrom_none]
      exact (ih state (n + 1) (Draft.open? d n line)).afterLine line
    | some b =>
      cases hr : b.read d n line with
      | inl b' =>
        rw [foundsFrom_inl hr]
        simp only [seek, hr]
        exact (ih state (n + 1) (some b')).afterLine line
      | inr found =>
        rw [foundsFrom_inr hr]
        rcases hv : visit state found with ⟨state', _ | answer⟩
        · simp only [seek, hr, visitAll, hv]
          exact (ih state' (n + 1) none).afterLine line
        · simp only [seek, hr, visitAll, hv]
          exact ⟨rfl, rfl, rfl, by simp, by simp⟩

end Scan

namespace Scanner

def upcoming (s : Scanner) (disk : Disk) : List Found :=
  match s.phase with
  | .reading reader line =>
    Scan.foundsFrom s.delimiters (reader.fault? disk).isNone line none (reader.lines disk)
  | _ => []

def ending (s : Scanner) (disk : Disk) : Option ReadError :=
  match s.phase with
  | .reading reader _ => (reader.fault? disk).map (.failed s.input.file)
  | _ => none

def reply {β : Type} (answer : Option β) (ending : Option ReadError) : Except ScanError (Option β) :=
  match answer, ending with
  | none, some cause => .error (.unreadable cause)
  | answer, _ => .ok answer

@[simp] lemma reply_some {β : Type} (answer : β) (ending : Option ReadError) :
    reply (some answer) ending = .ok (some answer) := by
  cases ending <;> rfl

@[simp] lemma reply_none {β : Type} (answer : Option β) : reply answer none = .ok answer := by
  cases answer <;> rfl

@[simp] lemma reply_unreadable {β : Type} (cause : ReadError) :
    reply (none : Option β) (some cause) = .error (.unreadable cause) := rfl

def IsOpen (s : Scanner) : Prop :=
  s.phase ≠ .unopened ∧ s.phase ≠ .closed

lemma opened_of_isOpen {s : Scanner} (h : s.IsOpen) (disk : Disk) (run : Run) :
    s.opened disk run = (run, s, none) := by
  unfold opened
  split
  next hp => exact absurd hp h.1
  next hp => exact absurd hp h.2
  next => rfl

lemma fault?_afterLines (r : Reader) (disk : Disk) (n : Nat) :
    (r.afterLines disk n).fault? disk = r.fault? disk := by
  unfold Reader.afterLines
  dsimp only
  split <;> rfl

lemma lines_afterLines (r : Reader) (disk : Disk) (n : Nat) :
    (r.afterLines disk n).lines disk = (r.lines disk).drop n := by
  rw [Reader.lines, Reader.lines, fault?_afterLines, Reader.ahead_afterLines]
  cases r.fault? disk with
  | none => exact Source.lines_afterLines n _
  | some cause => exact Source.lines_ended_afterLines n _

lemma seek_spec {σ β : Type} {s : Scanner} (h : s.IsOpen) (disk : Disk) (visit : σ → Found → σ × Option β)
    (state : σ) :
    ∃ s', s.seek disk visit state =
        ((Scan.visitAll visit state (s.upcoming disk)).1, s',
          reply (Scan.visitAll visit state (s.upcoming disk)).2.1 (s.ending disk)) ∧
      s'.upcoming disk = (Scan.visitAll visit state (s.upcoming disk)).2.2 ∧
      ((Scan.visitAll visit state (s.upcoming disk)).2.1 ≠ none → s'.ending disk = s.ending disk) ∧
      s'.input = s.input ∧ s'.IsOpen := by
  obtain ⟨input, filetype, d, phase⟩ := s
  cases phase with
  | reading reader line =>
    have hg := Scan.seek_gives d visit (reader.fault? disk).isNone state line none (reader.lines disk)
    simp only [seek, upcoming, ending]
    generalize Scan.seek d visit (reader.fault? disk).isNone state line none (reader.lines disk) = search at *
    have hleft := hg.left
    rw [← hg.state, ← hg.answer]
    cases hx : search.exhausted with
    | false =>
      have ha : search.answer ≠ none := by
        intro hn
        exact Bool.false_ne_true (hx.symm.trans (hg.exhausted hn))
      obtain ⟨answer, ha⟩ := Option.ne_none_iff_exists'.mp ha
      refine ⟨_, by rw [ha, reply_some]; rfl, ?_, ?_, rfl, by simp [IsOpen]⟩
      · simp [hleft, hx, fault?_afterLines, lines_afterLines]
      · simp [fault?_afterLines]
    | true =>
      refine ⟨⟨input, filetype, d, .exhausted⟩, ?_, by simp [hleft, hx], ?_, rfl, by simp [IsOpen]⟩
      · cases hf : reader.fault? disk with
        | none => simp
        | some cause =>
          have ha : search.answer = none := by
            cases ha : search.answer with
            | none => rfl
            | some answer => simpa [hf] using hg.whole hx (by simp [ha])
          simp [ha, reply]
      · intro hn
        have hw := hg.whole hx hn
        simp [Option.isNone_iff_eq_none.mp hw]
  | unopened | closed | exhausted => exact ⟨_, rfl, rfl, fun _ => rfl, rfl, h⟩

lemma next_of_upcoming_nil {s : Scanner} (h : s.IsOpen) {disk : Disk} (hu : s.upcoming disk = [])
    (he : s.ending disk = none) (run : Run) :
    ∃ s', s.next disk run = (run, s', .ok none) ∧ s'.upcoming disk = [] ∧ s'.IsOpen := by
  obtain ⟨s', hs, hu', -, -, ho⟩ := seek_spec h disk
    (fun (run : Run) (found : Found) =>
      ((run.register s.input.file found).1, some (run.register s.input.file found).2))
    run
  rw [hu, he] at hs
  rw [hu] at hu'
  refine ⟨s', ?_, hu', ho⟩
  simp only [next, opened_of_isOpen h, hs]
  rfl

lemma next_of_upcoming_cons {s : Scanner} (h : s.IsOpen) {disk : Disk} {found : Found} {rest : List Found}
    (hu : s.upcoming disk = found :: rest) (run : Run) :
    ∃ s', s.next disk run =
      ((run.register s.input.file found).1, s', .ok (some (run.register s.input.file found).2)) ∧
      s'.upcoming disk = rest ∧ s'.ending disk = s.ending disk ∧ s'.input = s.input ∧ s'.IsOpen := by
  obtain ⟨s', hs, hu', he, hi, ho⟩ := seek_spec h disk
    (fun (run : Run) (found : Found) =>
      ((run.register s.input.file found).1, some (run.register s.input.file found).2))
    run
  rw [hu] at hs hu' he
  refine ⟨s', ?_, hu', he (by simp [Scan.visitAll]), hi, ho⟩
  simp only [next, opened_of_isOpen h, hs, Scan.visitAll, reply_some]

end Scanner

end CommentDoc
