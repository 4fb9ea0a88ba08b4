import AbiProbe.Probe.Basic
import AbiProbe.Proofs.Header

/-! # The headers of a program

A program begins with the headers of its probe and of its question, each operand once, in the order
in which the operands are first asked for. The include lines therefore depend neither on how a
header is spelled nor on repetitions, and a probe for the headers of another probe writes the same
programs (`AbiProbe.Probe.mainSource_canonical`).
-/

namespace AbiProbe.Probe

variable {files : FileTree} {headers : List String} {workDir : String} {toolchain : Toolchain}
  {log : Log.Filter} {probe : Probe}

/-- The function of a program that runs its statements. -/
def mainFunction (body : String) : String :=
  "int main(void) \x7b\n" ++ String.join ((Text.linesOf body).map indented) ++ "\x7d\n"

/-- A program is its include lines, an empty line and its function. -/
theorem mainSource_eq (probe : Probe) (extra : List String) (body : String) :
    probe.mainSource extra body =
      (probe.includes.append extra).lines ++ "\n" ++ mainFunction body := by
  unfold mainSource mainFunction
  apply String.toList_inj.mp
  simp only [String.toList_append, List.append_assoc]
  rfl

theorem includes_of_inDirectory
    (made : inDirectory files headers workDir toolchain log = .ok probe) :
    probe.includes = .ofHeaders headers := by
  unfold inDirectory at made
  split at made
  · cases made
  · cases made
    rfl
  · cases made

/-- The include lines of a program are those of the headers asked for. -/
theorem mainSource_of_inDirectory
    (made : inDirectory files headers workDir toolchain log = .ok probe) (extra : List String)
    (body : String) :
    probe.mainSource extra body =
      String.join ((((headers ++ extra).map Header.operand).eraseDups).map fun operand =>
        "#include " ++ operand ++ "\n") ++ "\n" ++ mainFunction body := by
  rw [mainSource_eq, includes_of_inDirectory made, IncludeList.lines,
    IncludeList.operands_append_ofHeaders]

/-- **The include lines of a program are canonical.** They hold the operands of the headers asked
for, in the order of their first occurrences and none of them twice, with an empty line behind. A
probe made from the operands of a probe writes the same programs, and so does one made from
headers that are spelled in another way or repeated, whoever brings them. -/
theorem mainSource_canonical
    (made : inDirectory files headers workDir toolchain log = .ok probe)
    (extra : List String) (body : String) :
    (∃ included : List String,
      (∀ kept, InFirstOrder kept ((headers ++ extra).map Header.operand) ↔ kept = included) ∧
      included.Nodup ∧
      probe.mainSource extra body =
        String.join (included.map fun operand => "#include " ++ operand ++ "\n") ++ "\n" ++
          mainFunction body) ∧
    (∀ files workDir toolchain log rebuilt,
      inDirectory files probe.includes.operands workDir toolchain log = .ok rebuilt →
      rebuilt.mainSource extra body = probe.mainSource extra body) ∧
    (∀ others furtherExtra,
      Relation.ReflTransGen Header.Restated (headers ++ extra) (others ++ furtherExtra) →
      ∀ files workDir toolchain log other,
        inDirectory files others workDir toolchain log = .ok other →
        other.mainSource furtherExtra body = probe.mainSource extra body) := by
  refine ⟨⟨_, fun _ => inFirstOrder_iff, nodup_eraseDups _, mainSource_of_inDirectory made extra
    body⟩, ?_, ?_⟩
  · intro files workDir toolchain log rebuilt remade
    rw [mainSource_eq, mainSource_eq, includes_of_inDirectory remade, includes_of_inDirectory made,
      IncludeList.ofHeaders_operands]
  · intro others furtherExtra restated files workDir toolchain log other remade
    rw [mainSource_of_inDirectory remade, mainSource_of_inDirectory made,
      Header.eraseDups_of_restatements restated]

/-- A header with blanks around it that is asked for again by its operand is included once. -/
theorem mainSource_canonical_repeated :
    ∃ probe other,
      inDirectory ⟨[], []⟩ ["sys.h"] "/"
          { compile := fun _ => .error .notFound, run := fun _ => .error .notFound } =
        .ok probe ∧
      inDirectory ⟨[], []⟩ ["\tsys.h "] "/"
          { compile := fun _ => .error .notFound, run := fun _ => .error .notFound } =
        .ok other ∧
      other.mainSource ["<stdio.h>", "\"sys.h\""] "return 0;" =
        probe.mainSource ["<stdio.h>"] "return 0;" := by
  let toolchain : Toolchain :=
    { compile := fun _ => .error .notFound, run := fun _ => .error .notFound }
  have place : (⟨[], []⟩ : FileTree).resolve "/" = .ok ([], .directory) := by decide +kernel
  have made (headers : List String) : inDirectory ⟨[], []⟩ headers "/" toolchain =
      .ok ⟨.ofHeaders headers, "/", toolchain, .silent⟩ := by
    rw [inDirectory, place]
  have padded : Header.Respelled "sys.h" ("\t" ++ ("sys.h" ++ " ")) :=
    .padded (List.forall_mem_singleton.mpr rfl) (List.forall_mem_singleton.mpr rfl)
  have quoted : Header.Respelled "sys.h" (Header.operand "sys.h") := .operand
  have spelled : Header.Spells "\tsys.h " "\"sys.h\"" :=
    .trans _ _ _ (.symm _ _ (.rel _ _ padded)) (.rel _ _ quoted)
  have first : Header.Restated (["sys.h"] ++ ["<stdio.h>"]) ["\tsys.h ", "<stdio.h>"] :=
    .respelled [] ["<stdio.h>"] (.rel _ _ padded)
  have second : Header.Restated ["\tsys.h ", "<stdio.h>"]
      (["\tsys.h "] ++ ["<stdio.h>", "\"sys.h\""]) :=
    .repeated ["\tsys.h ", "<stdio.h>"] [] List.mem_cons_self spelled
  refine ⟨_, _, made _, made _, ?_⟩
  exact (mainSource_canonical (made ["sys.h"]) ["<stdio.h>"] "return 0;").2.2 _ _
    ((Relation.ReflTransGen.single first).tail second) _ _ _ _ _ (made _)

end AbiProbe.Probe
