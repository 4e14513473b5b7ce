import CommentDoc.Proofs.Command.Messages
import CommentDoc.Proofs.Command.Stages
import CommentDoc.Proofs.Command.Standard

/-! On a bad invocation the command says what is wrong and leaves everything as it is, unless it
is broken off before it can say anything. -/

namespace CommentDoc.Command

section Refusing

variable [Text.Edition] [Scalars] [Packages]

inductive Faulty (w : World) (o : Options) : Prop
  | settings : (∀ as s, ¬ Configured w o as s) → Faulty w o
  | noPaths : o.paths = [] → Faulty w o
  | path {p : Option String} : p ∈ o.paths → ¬ NamesFile w.disk p → Faulty w o
  | output : (∀ d, ¬ Opens w.disk o.output d) → Faulty w o

/-- Something that the command does not expect keeps it from going on: an environment file that
cannot be read or is not UTF-8, a first missing path that is null or of which it cannot be told
whether it leads to a file, or an output with a NUL in its name. -/
inductive BrokenOff (w : World) (o : Options) : Prop
  | environment {failure} : envAssignments w = .error failure → BrokenOff w o
  | nullPath {as s} : Configured w o as s → FirstMissing w.disk o.paths none → BrokenOff w o
  | unclear {as s name cause} : Configured w o as s → FirstMissing w.disk o.paths (some name) →
      Unclear w.disk name cause → BrokenOff w o
  | outputName {as s} : Configured w o as s → o.paths ≠ [] → (∀ p ∈ o.paths, NamesFile w.disk p) →
      (o.output.map hasNull).getD false = true → BrokenOff w o

/-- The message is about a missing file just if the settings are good and a path is missing, and
then about the first such path. -/
def NamesFirstMissing (w : World) (o : Options) (f : Fatal) : Prop :=
  ∀ path, f = .noFile path ↔
    ∃ as s name, Configured w o as s ∧ FirstMissing w.disk o.paths (some name) ∧
      path = (Path.ofString name).text

variable {w : World} {o : Options} {tokens : List String}

lemma BrokenOff.run_ne_finished (hparse : invocation tokens = .extract o) (h : BrokenOff w o) (e : Effect) :
    run w tokens ≠ .finished e := by
  cases h with
  | environment has => simp [run, hparse, has]
  | nullPath hs hp => simp [run_of_configured hparse hs, extract_of_obstacle hp.obstacle?_none]
  | unclear hs hp hcause =>
    simp [run_of_configured hparse hs, extract_of_obstacle (hp.obstacle?_unclear hcause)]
  | outputName hs hne hfiles hnull => simp [run_of_configured hparse hs, extract_of_null hne hfiles hnull]

lemma Ends.gaveUp_of_faulty {outcome : Outcome} (hends : Ends w o outcome) (h : Faulty w o)
    (hb : ¬ BrokenOff w o) :
    ∃ f, outcome = .finished (gaveUp w f) ∧ NamesFirstMissing w o f := by
  cases hends with
  | badEnvironment has => exact absurd (.environment has) hb
  | nullPath hs hp => exact absurd (.nullPath hs hp) hb
  | unclear hs hp hcause => exact absurd (.unclear hs hp hcause) hb
  | badOutputName hs hne hfiles hnull => exact absurd (.outputName hs hne hfiles hnull) hb
  | @badSettings as f has hf =>
    refine ⟨f, rfl, fun path => ⟨?_, ?_⟩⟩
    · rintro rfl
      rcases settings_error hf with ⟨invalid, hf⟩ | hf <;> cases hf
    · rintro ⟨as', s, name, hs, -, -⟩
      obtain rfl : as = as' := Except.ok.inj (has.symm.trans hs.assignments)
      exact absurd (hf.symm.trans hs.settings) (by simp)
  | noPaths hs hnil =>
    refine ⟨_, rfl, fun path => ⟨by simp, ?_⟩⟩
    rintro ⟨as, s, name, -, hp, -⟩
    exact absurd hnil hp.ne_nil
  | missing hs hp hclear =>
    refine ⟨_, rfl, fun path => ⟨?_, ?_⟩⟩
    · intro hpath
      exact ⟨_, _, _, hs, hp, (Fatal.noFile.inj hpath).symm⟩
    · rintro ⟨as, s, name, -, hp', rfl⟩
      rw [Option.some.inj (hp.unique hp')]
  | noOutput hs hne hfiles hnull hout =>
    refine ⟨_, rfl, fun path => ⟨by simp, ?_⟩⟩
    rintro ⟨as, s, name, -, hp, -⟩
    exact absurd hfiles hp.not_files
  | extracts hs hne hfiles hout =>
    cases h with
    | settings hbad => exact absurd hs (hbad _ _)
    | noPaths hnil => exact absurd hnil hne
    | path hp hmissing => exact absurd (hfiles _ hp) hmissing
    | output hbad => exact absurd hout (hbad _)

end Refusing

def oneFile : World where
  disk := Disk.empty.addFile (Path.ofString "a.sh") (Text.Utf8.encode "##\n# text\n##\n".toList)
  environment := [("PROCDOC_BLOCKS", "function")]

-- the output cannot be opened either, but the paths come first
def secondPathMissing : Options :=
  ⟨[some "a.sh", some "lib//[b].sh", some "c:d.sh"], false, false, some "out/x.jsonl", none, false⟩

end CommentDoc.Command
