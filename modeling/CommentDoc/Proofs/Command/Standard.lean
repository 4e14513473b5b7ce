import CommentDoc.Command.Standard
import CommentDoc.Proofs.Command.Markup
import CommentDoc.Proofs.Command.Quiet
import CommentDoc.Proofs.Settings.References

namespace CommentDoc

namespace Settings

lemma lastValue?_filter {α : Type} (field : String) (entries : List (String × α)) :
    lastValue? field (entries.filter fun v => namesField field v.1) = lastValue? field entries := by
  simp only [lastValue?, ← List.filter_reverse, List.find?_filter, and_self, Bool.decide_eq_true]

lemma Sources.value?_congr {s s' : Sources} {field : String}
    (hgiven : s.given.lookup field = s'.given.lookup field)
    (henvironment : (s.environment.filter fun v => namesField field v.1) =
      s'.environment.filter fun v => namesField field v.1)
    (hfile : (s.file.filter fun v => namesField field v.1) = s'.file.filter fun v => namesField field v.1) :
    s.value? field = s'.value? field := by
  rw [value?, value?, hgiven, ← lastValue?_filter field s.environment, henvironment, lastValue?_filter,
    ← lastValue?_filter field s.file, hfile, lastValue?_filter]

end Settings

instance LawfulPackages.standard : LawfulPackages where
  aloud_insert := Invocation.aloud_read_insert
  table_congr as h := EnvFile.filter_table as h
  value?_congr := Settings.Sources.value?_congr
  shown_plain := Console.shown_of_plain

end CommentDoc
