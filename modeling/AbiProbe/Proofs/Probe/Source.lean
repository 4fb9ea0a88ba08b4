import AbiProbe.Proofs.Identifier
import AbiProbe.Proofs.Probe.Inclusion
import AbiProbe.Proofs.Probe.Trial
import AbiProbe.Proofs.Text.Delimiter
import AbiProbe.Proofs.Text.Line

/-! # Programs and their questions

A program determines the lines of its statements (`AbiProbe.Probe.lines_eq_of_mainFunction_eq`).
The first of them holds the name that is asked for, in a frame of the aspect. Programs of different
frames differ whatever the names are (`AbiProbe.Probe.opening_eq_of_sourceFor_eq`), and a name
without line feeds cannot be mistaken for a part of its frame, so a program tells its question
(`AbiProbe.Probe.compiled_by_one_question`).
-/

namespace AbiProbe

namespace Aspect

/-! ## Frames of names -/

/-- The end of a statement that prints whether a condition holds. -/
def verdict : String :=
  ") ? \"true\" : \"false\");"

/-- What stands in front of the name in the first line of the statements. -/
def opening : Aspect → String
  | size => "printf(\"%zu\\n\", sizeof("
  | alignment => "printf(\"%zu\\n\", alignof("
  | signedness | floatingPoint => "printf(\"%s\\n\", ((("
  | definedness => "#ifdef "
  | signedValue => "printf(\"%lld\\n\", (long long)("
  | unsignedValue => "printf(\"%llu\\n\", (unsigned long long)("

/-- What stands behind the name in the first line of the statements. -/
def closing : Aspect → String → String
  | signedness, _ => ")-1) < 0" ++ verdict
  | floatingPoint, name => ")1.5) != ((" ++ (name ++ (")1)" ++ verdict))
  | definedness, _ => ""
  | _, _ => "));"

/-- The lines behind the first one. -/
def following : Aspect → String
  | definedness => "printf(\"true\\n\");\n#else\nprintf(\"false\\n\");\n#endif\nreturn 0;"
  | _ => "return 0;"

/-- The first line of the statements. -/
def statement (aspect : Aspect) (name : String) : List Char :=
  aspect.opening.toList ++ (name.toList ++ (aspect.closing name).toList)

theorem toList_body (aspect : Aspect) (name : String) :
    (aspect.body name).toList = aspect.statement name ++ '\n' :: aspect.following.toList := by
  cases aspect <;>
    simp [body, printingTruth, printing, statement, opening, closing, verdict, following]

/-- All aspects. -/
def all : List Aspect :=
  [size, alignment, signedness, floatingPoint, definedness, signedValue, unsignedValue]

theorem mem_all (aspect : Aspect) : aspect ∈ all := by
  cases aspect <;> decide

/-- No opening ends a line, and none begins another. -/
private theorem opening_table : ∀ first ∈ all,
    (first.opening.toList ≠ [] ∧ '\n' ∉ first.opening.toList ∧ '\r' ∉ first.opening.toList) ∧
      ∀ second ∈ all, first.opening.toList <+: second.opening.toList →
        first.opening = second.opening := by
  decide +kernel

theorem opening_ne_nil (aspect : Aspect) : aspect.opening.toList ≠ [] :=
  (opening_table aspect (mem_all aspect)).1.1

theorem lineFeed_notMem_opening (aspect : Aspect) : '\n' ∉ aspect.opening.toList :=
  (opening_table aspect (mem_all aspect)).1.2.1

theorem return_notMem_opening (aspect : Aspect) : '\r' ∉ aspect.opening.toList :=
  (opening_table aspect (mem_all aspect)).1.2.2

/-- A text begins with one opening. -/
theorem opening_eq_of_append {first second : Aspect} {rest other : List Char}
    (same : first.opening.toList ++ rest = second.opening.toList ++ other) :
    first.opening = second.opening := by
  rcases List.prefix_or_prefix_of_prefix ⟨_, same⟩ ⟨_, rfl⟩ with begins | begins
  · exact (opening_table first (mem_all first)).2 second (mem_all second) begins
  · exact ((opening_table second (mem_all second)).2 first (mem_all first) begins).symm

/-- Only the two questions that cast to the type open alike. -/
theorem eq_or_casts_of_opening_eq {first second : Aspect}
    (same : first.opening = second.opening) :
    first = second ∨ (first = signedness ∧ second = floatingPoint) ∨
      (first = floatingPoint ∧ second = signedness) := by
  revert same
  cases first <;> cases second <;> decide

variable {aspect first second : Aspect} {name other : String}

theorem lineFeed_notMem_closing (noFeed : '\n' ∉ name.toList) :
    '\n' ∉ (aspect.closing name).toList := by
  cases aspect <;> simp [closing, verdict, noFeed]

/-- Where the name need not be an identifier, a statement ends behind it. -/
theorem getLast?_closing (differs : aspect ≠ definedness) (name : String) :
    (aspect.closing name).toList.getLast? = some ';' := by
  cases aspect with
  | definedness => exact absurd rfl differs
  | floatingPoint =>
      simp only [closing, String.toList_append, List.getLast?_append]
      rfl
  | _ => simp [closing, verdict]

/-! ## The first line -/

/-- The first line of the statements does not end with a carriage return. -/
theorem getLast?_statement_ne
    (asked : aspect = definedness → Identifier.isIdentifier name = true) :
    (aspect.statement name).getLast? ≠ some '\r' := by
  by_cases defined : aspect = definedness
  · subst defined
    intro ends
    have member := List.mem_of_getLast? ends
    rw [statement, List.mem_append, List.mem_append] at member
    rcases member with opened | named | closed
    · exact return_notMem_opening _ opened
    · exact absurd (Identifier.isPart_of_mem (asked rfl) named) (by decide)
    · cases closed
  · rw [statement, List.getLast?_append, List.getLast?_append, getLast?_closing defined,
      Option.some_or, Option.some_or]
    decide

/-- The statements begin with a line that holds the name. -/
theorem lines_body (noFeed : '\n' ∉ name.toList)
    (asked : aspect = definedness → Identifier.isIdentifier name = true) :
    Text.lines (aspect.body name).toList =
      aspect.statement name :: Text.lines aspect.following.toList := by
  rw [toList_body]
  refine Text.lines_append_lineFeed ?_ (getLast?_statement_ne asked) _
  rw [statement, List.mem_append, List.mem_append, not_or, not_or]
  exact ⟨lineFeed_notMem_opening aspect, noFeed, lineFeed_notMem_closing noFeed⟩

/-- What is asked by a comparison of signs is not asked by one of fractions. -/
theorem signedness_statement_ne (name other : String) :
    signedness.statement name ≠ floatingPoint.statement other := by
  intro same
  have behind := List.append_cancel_left same
  simp only [closing, String.toList_append, ← List.append_assoc] at behind
  -- Up to the common end, one text ends with a digit and the other with a parenthesis.
  have ends := congrArg List.getLast? (List.append_cancel_right behind)
  have digit : ")-1) < 0".toList.getLast? = some '0' := rfl
  have parenthesis : ")1)".toList.getLast? = some ')' := rfl
  rw [List.getLast?_append, List.getLast?_append, digit, parenthesis, Option.some_or,
    Option.some_or] at ends
  cases ends

theorem statement_injective (aspect : Aspect) : (aspect.statement).Injective := by
  intro name other same
  have behind := List.append_cancel_left same
  apply String.toList_inj.mp
  cases aspect with
  | floatingPoint =>
      -- The name stands there twice, so its length is determined.
      have lengths := congrArg List.length behind
      simp only [closing, String.toList_append, List.length_append] at lengths
      exact (List.append_inj behind (by omega)).1
  | _ => exact List.append_cancel_right behind

/-- The first line tells its question. -/
theorem eq_of_statement_eq (same : first.statement name = second.statement other) :
    first = second ∧ name = other := by
  rcases eq_or_casts_of_opening_eq (opening_eq_of_append same) with
    rfl | ⟨rfl, rfl⟩ | ⟨rfl, rfl⟩
  · exact ⟨rfl, first.statement_injective same⟩
  · exact (signedness_statement_ne name other same).elim
  · exact (signedness_statement_ne other name same.symm).elim

end Aspect

/-! ## Include lines -/

namespace IncludeList

/-- A header at the end adds its line, unless it is included already. -/
theorem lines_append_singleton (includes : IncludeList) (header : String) :
    (includes.append [header]).lines = includes.lines ∨
      (includes.append [header]).lines =
        includes.lines ++ ("#include " ++ Header.operand header ++ "\n") := by
  have operands : (includes.append [header]).operands =
      if Header.operand header ∈ includes.operands then includes.operands
      else includes.operands ++ [Header.operand header] := by
    rw [operands_append, List.map_singleton, eraseDups_concat, eraseDups_of_nodup includes.nodup]
  unfold lines
  rw [operands]
  split
  · exact Or.inl rfl
  · refine Or.inr ?_
    rw [List.map_append, String.join_append]
    exact congrArg _ String.empty_append

end IncludeList

namespace Probe

variable {probe : Probe} {first second : Aspect} {name other source : String}

/-- A header more does not hide what stands behind the include lines. -/
private theorem eq_of_lines_append {includes : IncludeList} {header function otherFunction : String}
    (same : (includes.append [header]).lines ++ "\n" ++ function =
      includes.lines ++ "\n" ++ otherFunction) : function = otherFunction := by
  rcases includes.lines_append_singleton header with unchanged | added
  · rw [unchanged] at same
    exact (String.append_right_inj _).mp same
  · rw [added, ← String.toList_inj] at same
    simp only [String.toList_append, List.append_assoc] at same
    -- The line of a header does not begin like the empty line.
    have heads := congrArg List.head? (List.append_cancel_left same)
    simp at heads

/-- Programs of one probe have the same include lines, or differ in one header. -/
theorem mainFunction_eq_of_sourceFor_eq
    (same : probe.sourceFor first name = probe.sourceFor second other) :
    mainFunction (first.body name) = mainFunction (second.body other) := by
  have included (aspect : Aspect) (name : String) : probe.sourceFor aspect name =
      (if aspect = .alignment then
        (probe.includes.append ["<stdio.h>"]).append ["<stdalign.h>"]
      else probe.includes.append ["<stdio.h>"]).lines ++ "\n" ++ mainFunction (aspect.body name) := by
    rw [sourceFor, mainSource_eq]
    cases aspect with
    | alignment => rw [if_pos rfl, IncludeList.append_append]; rfl
    | _ => rfl
  rw [included, included] at same
  split at same <;> split at same
  · exact (String.append_right_inj _).mp same
  · exact eq_of_lines_append same
  · exact (eq_of_lines_append same.symm).symm
  · exact (String.append_right_inj _).mp same

/-! ## Statements of a program -/

/-- The text of a line of statements inside a function. -/
def indentation (line : List Char) : List Char :=
  "    ".toList ++ (line ++ ['\n'])

theorem toList_indented (line : List Char) :
    (indented (String.ofList line)).toList = indentation line := by
  simp [indented, indentation]

theorem toList_join_indented (body : String) :
    (String.join ((Text.linesOf body).map indented)).toList =
      (Text.lines body.toList).flatMap indentation := by
  rw [String.toList_join, Text.linesOf, List.flatMap_map, List.flatMap_map]
  exact congrArg (List.flatMap · _) (funext toList_indented)

theorem eq_of_flatMap_indentation_eq {lines others : List (List Char)}
    (noFeed : ∀ line ∈ lines, '\n' ∉ line) (alsoNone : ∀ line ∈ others, '\n' ∉ line)
    (same : lines.flatMap indentation = others.flatMap indentation) : lines = others := by
  induction lines generalizing others with
  | nil =>
      cases others with
      | nil => rfl
      | cons line others => cases same
  | cons line lines ih =>
      cases others with
      | nil => cases same
      | cons otherLine others =>
          rw [List.forall_mem_cons] at noFeed alsoNone
          simp only [List.flatMap_cons, indentation, List.append_assoc,
            List.singleton_append] at same
          obtain ⟨rfl, rest⟩ := Text.append_cons_inj noFeed.1 alsoNone.1
            (List.append_cancel_left same)
          rw [ih noFeed.2 alsoNone.2 rest]

/-- **A function tells the lines of its statements.** -/
theorem lines_eq_of_mainFunction_eq {body otherBody : String}
    (same : mainFunction body = mainFunction otherBody) :
    Text.lines body.toList = Text.lines otherBody.toList := by
  have joined := (String.append_right_inj _).mp ((String.append_left_inj _).mp same)
  have texts := congrArg String.toList joined
  rw [toList_join_indented, toList_join_indented] at texts
  exact eq_of_flatMap_indentation_eq (fun _ => Text.lineFeed_notMem_of_mem_lines)
    (fun _ => Text.lineFeed_notMem_of_mem_lines) texts

/-- **Programs tell the frames of their names,** whatever the names are. -/
theorem opening_eq_of_sourceFor_eq
    (same : probe.sourceFor first name = probe.sourceFor second other) :
    first.opening = second.opening := by
  have opens (aspect : Aspect) (name : String) : ∃ line more,
      Text.lines (aspect.body name).toList = (aspect.opening.toList ++ line) :: more := by
    rw [Aspect.toList_body, Aspect.statement, List.append_assoc]
    exact Text.exists_lines_append_eq_cons _ aspect.opening_ne_nil aspect.lineFeed_notMem_opening
      aspect.return_notMem_opening _
  have lines := lines_eq_of_mainFunction_eq (mainFunction_eq_of_sourceFor_eq same)
  obtain ⟨line, more, split⟩ := opens first name
  obtain ⟨otherLine, otherMore, otherSplit⟩ := opens second other
  rw [split, otherSplit] at lines
  exact Aspect.opening_eq_of_append (List.cons.inj lines).1

/-! ## Questions of a program -/

/-- A question compiles its program only, and none if the name is refused. -/
theorem eq_sourceFor_of_compiled
    (compiled : Event.Start.compile source ∈ startsOf (probe.ask first name).journal) :
    source = probe.sourceFor first name ∧
      (first = .definedness → Identifier.isIdentifier name = true) := by
  unfold ask at compiled
  split at compiled
  · cases compiled
  · rename_i accepted
    refine ⟨eq_sourceFor_of_compile_mem compiled, fun defined => ?_⟩
    by_contra unshaped
    exact accepted ⟨defined, by simpa using unshaped⟩

/-- **A program answers one question.** Names without line feeds, whatever else they hold, are
asked for different aspects or as different names by different programs. -/
theorem compiled_by_one_question (noFeed : '\n' ∉ name.toList) (alsoNone : '\n' ∉ other.toList)
    (compiled : Event.Start.compile source ∈ startsOf (probe.ask first name).journal)
    (also : Event.Start.compile source ∈ startsOf (probe.ask second other).journal) :
    first = second ∧ name = other := by
  obtain ⟨rfl, asked⟩ := eq_sourceFor_of_compiled compiled
  obtain ⟨same, alsoAsked⟩ := eq_sourceFor_of_compiled also
  have lines := lines_eq_of_mainFunction_eq (mainFunction_eq_of_sourceFor_eq same)
  rw [Aspect.lines_body noFeed asked, Aspect.lines_body alsoNone alsoAsked] at lines
  exact Aspect.eq_of_statement_eq (List.cons.inj lines).1

/-- A name that closes a cast and opens another begins like the program of a second question, and
is not answered by it. -/
theorem compiled_by_one_question_cast :
    let probe : Probe := {
      includes := .ofHeaders ["stdalign.h"]
      workDir := "."
      toolchain := { compile := fun _ => .error .notFound, run := fun _ => .error .notFound } }
    let other := "int)1.5) != ((int"
    '\n' ∉ "int".toList ∧ '\n' ∉ other.toList ∧
      ("printf(\"%s\\n\", (((int)1.5) != ((int)".toList <+:
          Aspect.floatingPoint.statement "int" ∧
        "printf(\"%s\\n\", (((int)1.5) != ((int)".toList <+:
          Aspect.signedness.statement other) ∧
      Event.Start.compile (probe.sourceFor .floatingPoint "int") ∈
        startsOf (probe.ask .floatingPoint "int").journal ∧
      Event.Start.compile (probe.sourceFor .signedness other) ∈
        startsOf (probe.ask .signedness other).journal ∧
      Event.Start.compile (probe.sourceFor .floatingPoint "int") ∉
        startsOf (probe.ask .signedness other).journal := by
  intro probe other
  have noFeed : '\n' ∉ "int".toList := by decide +kernel
  have alsoNone : '\n' ∉ other.toList := by decide +kernel
  have compiled (aspect : Aspect) (differs : aspect ≠ .definedness) (name : String) :
      Event.Start.compile (probe.sourceFor aspect name) ∈
        startsOf (probe.ask aspect name).journal := by
    rw [ask_eq_pose differs]
    exact compile_mem_startsOf_pose rfl
  refine ⟨noFeed, alsoNone, by decide +kernel, compiled .floatingPoint nofun "int",
    compiled .signedness nofun other, fun also => ?_⟩
  have same := compiled_by_one_question noFeed alsoNone (compiled .floatingPoint nofun "int") also
  exact absurd same.1 nofun

end Probe

end AbiProbe
