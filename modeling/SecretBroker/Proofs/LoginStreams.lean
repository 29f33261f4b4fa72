import Mathlib.Data.List.Infix
import SecretBroker.Cli.Bootstrap

/-!
What a login says on its two streams. They are searched as one text with a line break between them,
and a text of one line stands in it just if it stands in one of the streams: none of the marks of a
login reaches over the break. So what became of a login is told by the streams one by one.
-/

namespace SecretBroker.Text

/-- A text stands as a whole somewhere in another one. -/
def Stands (needle text : String) : Prop := needle.toList <:+: text.toList

theorem containsChars_iff (needle text : List Char) :
    containsChars needle text = true ↔ needle <:+: text := by
  induction text with
  | nil => rw [containsChars, List.isEmpty_iff, List.infix_nil]
  | cons c rest ih =>
      rw [containsChars, Bool.or_eq_true, List.isPrefixOf_iff_prefix, ih, List.infix_cons_iff]

theorem contains_iff (needle text : String) : contains needle text = true ↔ Stands needle text :=
  containsChars_iff needle.toList text.toList

theorem not_stands_empty {needle : String} (filled : needle ≠ "") : ¬ Stands needle "" := by
  intro stands
  exact filled (String.toList_eq_nil_iff.mp (List.infix_nil.mp stands))

/-- What has no separator in it lies on one side of each separator. -/
theorem infix_separated {needle front back : List Char} {separator : Char}
    (filled : needle ≠ []) (whole : separator ∉ needle) :
    needle <:+: front ++ separator :: back ↔ needle <:+: front ∨ needle <:+: back := by
  constructor
  · intro stands
    rcases List.infix_append_iff.mp stands with inFront | behind | ⟨head, tail, rfl, ends, begins⟩
    · exact .inl inFront
    · rcases List.infix_cons_iff.mp behind with atSeparator | inBack
      · -- It would begin with the separator.
        obtain ⟨c, rest, rfl⟩ := List.exists_cons_of_ne_nil filled
        obtain ⟨rfl, -⟩ := List.cons_prefix_cons.mp atSeparator
        exact absurd List.mem_cons_self whole
      · exact .inr inBack
    · cases tail with
      | nil =>
          rw [List.append_nil]
          exact .inl ends.isInfix
      | cons c rest =>
          obtain ⟨rfl, -⟩ := List.cons_prefix_cons.mp begins
          exact absurd (List.mem_append_right head List.mem_cons_self) whole
  · rintro (inFront | inBack)
    · exact inFront.trans (List.prefix_append front _).isInfix
    · exact (inBack.trans (List.suffix_cons separator back).isInfix).trans
        (List.suffix_append front _).isInfix

end SecretBroker.Text

namespace SecretBroker.Cli

open SecretBroker.Text

namespace Output

variable {output : Output} {text : String}

/-- A text stands in one of the two streams. -/
def Says (output : Output) (text : String) : Prop :=
  Stands text output.stdout ∨ Stands text output.stderr

/-- Putting the streams together hides no text of one line and makes up none. -/
theorem stands_combined (filled : text ≠ "") (oneLine : '\n' ∉ text.toList) :
    Stands text output.combined ↔ output.Says text := by
  have nowhere := not_stands_empty filled
  unfold combined Says
  split
  · rename_i quiet
    rw [String.isEmpty_iff.mp quiet]
    exact (or_iff_left nowhere).symm
  · split
    · rename_i quiet
      rw [String.isEmpty_iff.mp quiet]
      exact (or_iff_right nowhere).symm
    · have chars : (output.stdout ++ "\n" ++ output.stderr).toList =
          output.stdout.toList ++ '\n' :: output.stderr.toList := by
        simp [String.toList_append]
      unfold Stands
      rw [chars]
      exact infix_separated (mt String.toList_eq_nil_iff.mp filled) oneLine

end Output

/-- The client has ended well, or says on either stream that it is logged in. -/
def Output.ShowsLogin (output : Output) : Prop :=
  output.exit = some 0 ∨ output.Says "You are logged in!" ∨ output.Says "already logged in"

theorem shows_login_iff (output : Output) :
    (output.success || loginMarkers.any (contains · output.combined)) = true ↔
      output.ShowsLogin := by
  have success : output.success = true ↔ output.exit = some 0 := beq_iff_eq
  have marked : loginMarkers.any (contains · output.combined) = true ↔
      output.Says "You are logged in!" ∨ output.Says "already logged in" := by
    simp only [loginMarkers, List.any_cons, List.any_nil, Bool.or_false, Bool.or_eq_true,
      contains_iff]
    rw [Output.stands_combined (by decide) (by decide),
      Output.stands_combined (by decide) (by decide)]
  rw [Bool.or_eq_true, success, marked, Output.ShowsLogin]

theorem says_rate_limit_iff (output : Output) :
    contains rateLimitMarker output.combined = true ↔ output.Says "Rate limit" :=
  (contains_iff _ _).trans (Output.stands_combined (by decide) (by decide))

section Outcomes

variable {output : Output}

theorem shown_logged_in (shown : output.ShowsLogin) : classifyLogin output = .loggedIn :=
  if_pos ((shows_login_iff output).mpr shown)

theorem limited_rate_limited (unshown : ¬ output.ShowsLogin) (limited : output.Says "Rate limit") :
    classifyLogin output = .rateLimited :=
  (if_neg (mt (shows_login_iff output).mp unshown)).trans
    (if_pos ((says_rate_limit_iff output).mpr limited))

theorem unlimited_failed (unshown : ¬ output.ShowsLogin)
    (unlimited : ¬ output.Says "Rate limit") : classifyLogin output = .failed output.exit :=
  (if_neg (mt (shows_login_iff output).mp unshown)).trans
    (if_neg (mt (says_rate_limit_iff output).mp unlimited))

end Outcomes

/-- A login has succeeded if the client ended well or one of its streams says so; otherwise it was
turned away for its rate if one of the streams says that, and has failed if neither does. Nothing of
one line is found in the streams together that is in neither of them, or the other way round. -/
theorem login_told_by_streams (output : Output) :
    (classifyLogin output = .loggedIn ↔ output.ShowsLogin) ∧
    (classifyLogin output = .rateLimited ↔ ¬ output.ShowsLogin ∧ output.Says "Rate limit") ∧
    (∀ exit, classifyLogin output = .failed exit ↔
      ¬ output.ShowsLogin ∧ ¬ output.Says "Rate limit" ∧ exit = output.exit) ∧
    ∀ text : String, text ≠ "" → '\n' ∉ text.toList →
      (Stands text output.combined ↔ Stands text output.stdout ∨ Stands text output.stderr) := by
  refine ⟨?_, ?_, ?_, fun text => Output.stands_combined⟩
  all_goals
    by_cases shown : output.ShowsLogin
    · simp [shown_logged_in shown, shown]
    · by_cases limited : output.Says "Rate limit"
      · simp [limited_rate_limited shown limited, shown, limited]
      · simp [unlimited_failed shown limited, shown, limited, eq_comm]

/-- A mark that begins on one stream and ends on the other is none. -/
theorem divided_mark_fails :
    let output : Output := ⟨"You are", " logged in!", some 1⟩
    classifyLogin output = .failed (some 1) ∧ ¬ Stands "You are logged in!" output.combined := by
  intro output
  have silent : ∀ text ∈ ["You are logged in!", "already logged in", "Rate limit"],
      ¬ output.Says text := by
    unfold Output.Says Stands
    decide +kernel
  obtain ⟨-, -, failed, joined⟩ := login_told_by_streams output
  constructor
  · refine (failed (some 1)).mpr ⟨?_, silent _ (by decide), rfl⟩
    rintro (ended | said | said)
    · cases ended
    · exact silent _ (by decide) said
    · exact silent _ (by decide) said
  · exact fun stands => silent _ (by decide) ((joined _ (by decide) (by decide)).mp stands)

end SecretBroker.Cli
