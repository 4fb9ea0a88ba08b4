import AbiProbe.CommandLine.Run
import AbiProbe.Proofs.CommandLine.Scan
import Mathlib.Data.List.Nodup
import Mathlib.Order.Monotone.Defs

/-! # Requests in the order of the command line

The entries of a command line are collected option by option and put back in order by their
indices. Whatever these are, as long as they grow along the command line, what comes out is the
entries of the single occurrences, none lost, doubled or moved
(`AbiProbe.CommandLine.Scanned.entriesBy_eq`). So a command line asks for what it spells in the
order in which it spells it (`AbiProbe.CommandLine.requests_keep_order`).
-/

namespace AbiProbe.CommandLine

/-- The entry an occurrence of an option makes. -/
def Occurrence.declared? (occurrence : Occurrence) : Option Entry :=
  match occurrence.option with
  | .aliasType => occurrence.value.map .type
  | .signedConst => occurrence.value.map .signedConstant
  | .unsignedConst => occurrence.value.map .unsignedConstant
  | _ => none

/-- The request an occurrence of an option makes. -/
def Occurrence.request? (occurrence : Occurrence) : Option Request :=
  match occurrence.option with
  | .aliasType => occurrence.value.map .typeAlias
  | .signedConst => occurrence.value.map .signedConstant
  | .unsignedConst => occurrence.value.map .unsignedConstant
  | _ => none

theorem Occurrence.request?_eq (occurrence : Occurrence) :
    occurrence.request? = occurrence.declared?.map Entry.request := by
  obtain ⟨option, value⟩ := occurrence
  cases option <;> cases value <;> rfl

/-- Adding requests one after the other keeps their order, kinds and number. -/
theorem requestsOf_eq_map (entries : List Entry) : requestsOf entries = entries.map Entry.request := by
  have added (requests : List Request) :
      entries.foldl (fun requests entry => requests ++ [entry.request]) requests =
        requests ++ entries.map Entry.request := by
    induction entries generalizing requests with
    | nil => exact (List.append_nil requests).symm
    | cons entry entries ih =>
        rw [List.foldl_cons, ih, List.map_cons, List.append_assoc, List.singleton_append]
  exact added []

section Collecting

variable {α β γ : Type}

/-- Two collections over the same elements of a list pair up element by element. -/
theorem zip_filterMap {first : α → Option β} {second : α → Option γ}
    (together : ∀ x, (first x).isSome = (second x).isSome) (xs : List α) :
    (xs.filterMap first).zip (xs.filterMap second) =
      xs.filterMap fun x => (first x).bind fun b => (second x).map fun c => (b, c) := by
  induction xs with
  | nil => rfl
  | cons x xs ih =>
      have both := together x
      cases given : first x with
      | none =>
          have missing : second x = none := by simpa [given] using both.symm
          simp only [List.filterMap_cons, given, missing, Option.bind_none, ih]
      | some b =>
          obtain ⟨c, present⟩ : ∃ c, second x = some c := by
            rw [← Option.isSome_iff_exists, ← both, given]
            rfl
          simp only [List.filterMap_cons, given, present, Option.bind_some, Option.map_some,
            List.zip_cons_cons, ih]

theorem filterMap_zipIdx (collect : α → Option β) (xs : List α) :
    (xs.zipIdx.filterMap fun entry => collect entry.1) = xs.filterMap collect := by
  have entries := congrArg (List.filterMap collect) (List.zipIdx_map_fst 0 xs)
  rwa [List.filterMap_map] at entries

/-- Collecting by two tests that never both hold is, up to order, collecting by either. -/
theorem perm_filterMap_or {first second : α → Option β}
    (apart : ∀ x, first x = none ∨ second x = none) (xs : List α) :
    (xs.filterMap first ++ xs.filterMap second).Perm
      (xs.filterMap fun x => (first x).or (second x)) := by
  induction xs with
  | nil => exact List.Perm.refl []
  | cons x xs ih =>
      rcases apart x with missing | missing
      · cases given : second x with
        | none => simpa only [List.filterMap_cons, missing, given, Option.none_or] using ih
        | some b =>
            simp only [List.filterMap_cons, missing, given, Option.none_or]
            exact List.perm_middle.trans (ih.cons b)
      · cases given : first x with
        | none => simpa only [List.filterMap_cons, missing, given, Option.none_or] using ih
        | some b =>
            simp only [List.filterMap_cons, missing, given, Option.some_or, List.cons_append]
            exact ih.cons b

/-- Entries with places of their own come out in the order of their places, in whatever order
they are collected. -/
theorem mergeSort_eq_of_perm {collected ordered : List (Nat × β)} (whole : collected.Perm ordered)
    (ascending : ordered.Pairwise fun first second => first.1 < second.1) :
    (collected.mergeSort fun first second => first.1 ≤ second.1) = ordered := by
  have distinct : (ordered.map Prod.fst).Nodup :=
    List.pairwise_map.mpr (ascending.imp fun before => Nat.ne_of_lt before)
  have permuted := (List.mergeSort_perm collected fun first second => first.1 ≤ second.1).trans whole
  have sorted : (collected.mergeSort fun first second => first.1 ≤ second.1).Pairwise
      fun first second => decide (first.1 ≤ second.1) = true := by
    apply List.pairwise_mergeSort
    · intro first second third below above
      simp only [decide_eq_true_eq] at below above ⊢
      omega
    · intro first second
      simp only [Bool.or_eq_true, decide_eq_true_eq]
      omega
  -- Both lists are in order, and entries of one place are one entry, so they are the same list.
  refine permuted.eq_of_pairwise ?_ sorted (ascending.imp fun before => ?_)
  · intro first second member also below above
    simp only [decide_eq_true_eq] at below above
    exact List.inj_on_of_nodup_map distinct (permuted.subset member) also
      (Nat.le_antisymm below above)
  · exact decide_eq_true (Nat.le_of_lt before)

end Collecting

namespace Occurrence

/-- The entry of an occurrence of a given option, with its index. -/
def indexed? (index : Nat → Nat) (option : OptionName) (make : String → Entry)
    (placed : Occurrence × Nat) : Option (Nat × Entry) :=
  if placed.1.option = option then
    placed.1.value.map fun value => (index placed.2, make value)
  else none

variable {index : Nat → Nat}

/-- The three options that make entries share the entries of all occurrences among them. -/
theorem indexed?_or (placed : Occurrence × Nat) :
    ((indexed? index .aliasType .type placed).or
        (indexed? index .signedConst .signedConstant placed)).or
        (indexed? index .unsignedConst .unsignedConstant placed) =
      placed.1.declared?.map fun entry => (index placed.2, entry) := by
  obtain ⟨⟨option, value⟩, place⟩ := placed
  cases option <;> cases value <;> rfl

end Occurrence

namespace Scanned

variable {index : Nat → Nat}

/-- The indices and the values of an option are those of the same occurrences. -/
theorem collect_eq (scanned : Scanned) (index : Nat → Nat) (option : OptionName)
    (make : String → Entry) :
    scanned.collect index option make =
      scanned.occurrences.zipIdx.filterMap (Occurrence.indexed? index option make) := by
  have values : (scanned.values option).map make =
      scanned.occurrences.zipIdx.filterMap fun placed =>
        (if placed.1.option = option then placed.1.value else none).map make := by
    rw [values, List.map_filterMap]
    exact (filterMap_zipIdx _ scanned.occurrences).symm
  rw [collect, values, indicesOf, zip_filterMap]
  · congr 1
    funext ⟨⟨given, value⟩, place⟩
    by_cases same : given = option
    · cases value <;> simp [Occurrence.indexed?, same]
    · simp [Occurrence.indexed?, same]
  · rintro ⟨⟨given, value⟩, place⟩
    by_cases same : given = option
    · cases value <;> simp [same]
    · simp [same]

/-- The entries of single occurrences stand in the order of their indices, where these grow. -/
theorem pairwise_indices (scanned : Scanned) (grows : StrictMono index) :
    (scanned.occurrences.zipIdx.filterMap fun placed =>
      placed.1.declared?.map fun entry => (index placed.2, entry)).Pairwise
        fun first second => first.1 < second.1 := by
  have places : scanned.occurrences.zipIdx.Pairwise fun first second => first.2 < second.2 := by
    rw [← List.pairwise_map (f := Prod.snd), List.zipIdx_map_snd]
    exact List.pairwise_lt_range'
  refine List.pairwise_filterMap.mpr (places.imp ?_)
  intro first second before found given other also
  obtain ⟨entry, -, rfl⟩ := Option.map_eq_some_iff.mp given
  obtain ⟨entry', -, rfl⟩ := Option.map_eq_some_iff.mp also
  exact grows before

/-- The options that make entries collect, up to order, the entries of all occurrences. -/
theorem perm_collect (scanned : Scanned) (index : Nat → Nat) :
    (scanned.collect index .aliasType .type ++
      scanned.collect index .signedConst .signedConstant ++
      scanned.collect index .unsignedConst .unsignedConstant).Perm
      (scanned.occurrences.zipIdx.filterMap fun placed =>
        placed.1.declared?.map fun entry => (index placed.2, entry)) := by
  have types : ∀ placed : Occurrence × Nat,
      Occurrence.indexed? index .aliasType .type placed = none ∨
        Occurrence.indexed? index .signedConst .signedConstant placed = none := by
    rintro ⟨⟨option, value⟩, place⟩
    cases option <;> simp [Occurrence.indexed?]
  have constants : ∀ placed : Occurrence × Nat,
      (Occurrence.indexed? index .aliasType .type placed).or
          (Occurrence.indexed? index .signedConst .signedConstant placed) = none ∨
        Occurrence.indexed? index .unsignedConst .unsignedConstant placed = none := by
    rintro ⟨⟨option, value⟩, place⟩
    cases option <;> simp [Occurrence.indexed?]
  simp only [collect_eq, ← Occurrence.indexed?_or]
  exact ((perm_filterMap_or types _).append_right _).trans (perm_filterMap_or constants _)

/-- **Entries keep the order of the command line.** Sorting the collected entries by their indices
gives the entries of the single occurrences in order, whatever indices grow along the line. -/
theorem entriesBy_eq (scanned : Scanned) (grows : StrictMono index) :
    scanned.entriesBy index = scanned.occurrences.filterMap Occurrence.declared? := by
  unfold entriesBy
  dsimp only
  rw [mergeSort_eq_of_perm (scanned.perm_collect index) (scanned.pairwise_indices grows),
    List.map_filterMap]
  have unindexed : ∀ placed : Occurrence × Nat,
      (placed.1.declared?.map fun entry => (index placed.2, entry)).map Prod.snd =
        placed.1.declared? := by
    intro placed
    cases placed.1.declared? <;> rfl
  simp only [unindexed, filterMap_zipIdx]

theorem strictMono_argumentIndex : StrictMono argumentIndex := by
  intro first second before
  unfold argumentIndex
  omega

/-- The requests of a command line are those of its occurrences. -/
theorem requests_eq (scanned : Scanned) :
    scanned.requests = scanned.occurrences.filterMap Occurrence.request? := by
  have told : Occurrence.request? = fun occurrence =>
      occurrence.declared?.map Entry.request := funext Occurrence.request?_eq
  rw [requests, requestsOf_eq_map, scanned.entriesBy_eq strictMono_argumentIndex,
    List.map_filterMap, told]

end Scanned

theorem Subcommand.ofName?_name (subcommand : Subcommand) :
    ofName? subcommand.name = some subcommand := by
  cases subcommand <;> rfl

namespace Invocation

/-- The words behind the name of a subcommand are scanned for it. -/
theorem ofWords_name_eq_ok_iff {subcommand : Subcommand} {words : List String}
    {invocation : Invocation} :
    ofWords (subcommand.name :: words) = .ok invocation ↔
      ∃ scanned, scan subcommand words = .ok scanned ∧
        invocation = ofScanned subcommand scanned := by
  simp only [ofWords, subcommand.ofName?_name, bind_eq_ok_iff, pure, Except.pure,
    Except.ok.injEq, eq_comm (a := ofScanned subcommand _)]

/-- A command line for bindings asks for the requests of its occurrences. -/
theorem ofScanned_bindings (scanned : Scanned) :
    ofScanned .bindings scanned =
      { ofScanned .bindings scanned with
        task := .bindings (scanned.occurrences.filterMap Occurrence.request?)
          ((scanned.value? .visibility).getD EmissionStyle.standard.visibility)
          (scanned.value? .output) (scanned.has .json) } := by
  rw [← scanned.requests_eq]
  rfl

end Invocation

/-- **A command line asks for what it spells, in its order.** Accepted words for bindings are a
line of options, and however the words are taken as such a line, what is requested is the values
of the options that request a declaration, each as a request of its option, in the order of the
line. The declarations are generated from these requests. -/
theorem requests_keep_order {words : List String} {invocation : Invocation}
    (accepted : Invocation.ofWords (Subcommand.bindings.name :: words) = .ok invocation) :
    (∃ occurrences, Line .bindings words occurrences []) ∧
      ∀ occurrences operands, Line .bindings words occurrences operands →
        ∃ visibility output json,
          invocation.task =
            .bindings (occurrences.filterMap Occurrence.request?) visibility output json ∧
          ∀ probe : Probe, invocation.task.result probe = do
            let bindings ← (probe.generate
              (occurrences.filterMap Occurrence.request?)).mapError .probe
            return bindingsText visibility json bindings := by
  obtain ⟨scanned, scans, rfl⟩ := Invocation.ofWords_name_eq_ok_iff.mp accepted
  obtain ⟨line, -, admits, -⟩ := scan_eq_ok_iff.mp scans
  have none : scanned.operands = [] := List.eq_nil_of_length_eq_zero (by simpa using admits 0 rfl)
  constructor
  · exact ⟨scanned.occurrences, none ▸ line⟩
  · intro occurrences operands spelled
    obtain rfl := spelled.unique scans
    rw [Invocation.ofScanned_bindings]
    exact ⟨_, _, _, rfl, fun _ => rfl⟩

/-- Three types and three constants in any spelling, among other options, are requested in their
order. -/
theorem requests_keep_order_spellings :
    ∃ invocation visibility output json,
      Invocation.ofWords ["bindings", "-c", "A", "-vtB", "--unsigned-const=C", "--json", "-t=D",
        "--const", "E", "-H", "m.h", "--type", "F"] = .ok invocation ∧
      invocation.task = .bindings [.signedConstant "A", .typeAlias "B", .unsignedConstant "C",
        .typeAlias "D", .signedConstant "E", .typeAlias "F"] visibility output json := by
  let occurrences : List Occurrence :=
    [⟨.signedConst, some "A"⟩, ⟨.verbose, none⟩, ⟨.aliasType, some "B"⟩,
      ⟨.unsignedConst, some "C"⟩, ⟨.json, none⟩, ⟨.aliasType, some "D"⟩,
      ⟨.signedConst, some "E"⟩, ⟨.header, some "m.h"⟩, ⟨.aliasType, some "F"⟩]
  have scans : scan .bindings ["-c", "A", "-vtB", "--unsigned-const=C", "--json", "-t=D",
      "--const", "E", "-H", "m.h", "--type", "F"] = .ok ⟨occurrences, []⟩ := rfl
  have accepted := Invocation.ofWords_name_eq_ok_iff.mpr ⟨_, scans, rfl⟩
  obtain ⟨-, requested⟩ := requests_keep_order accepted
  obtain ⟨visibility, output, json, task, -⟩ :=
    requested occurrences [] (scan_eq_ok_iff.mp scans).1
  exact ⟨_, visibility, output, json, accepted, task⟩

end AbiProbe.CommandLine
