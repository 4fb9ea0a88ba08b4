import AbiProbe.Config.Json
import AbiProbe.Proofs.Json.Refusal

/-! # Configurations that are read from JSON

A configuration is read from an object whose members stand in any order, step by step from the
empty draft to the draft of its parts (`AbiProbe.Config.Draft.takes_restrict`). A member of another
name, or one that is given twice, is refused at its key (`AbiProbe.Config.ofJson_members`).
-/

namespace AbiProbe

open Json

namespace Config

/-! ## Parts -/

theorem recovers_text (text : String) : Recovers readText (.text text) text :=
  recovers_string "a string" text

theorem recovers_path (path : String) : Recovers readPath (.text path) path :=
  recovers_string "path string" path

/-- A list of texts as JSON. -/
def textsToJson (texts : List String) : Value :=
  .array (texts.map .text)

theorem recovers_list {read : Reader String} (reads : ∀ text, Recovers read (.text text) text)
    (texts : List String) : Recovers (Json.array read "a sequence") (textsToJson texts) texts := by
  apply Recovers.array
  rw [List.forall₂_map_left_iff, List.forall₂_same]
  exact fun text _ => reads text

theorem recovers_optionalPath (path : Option String) :
    Recovers readOptionalPath (Value.ofOption .text path) path :=
  Recovers.ofOption recovers_path (fun _ => nofun) path

namespace Draft

/-- The members that give the parts of a draft. -/
def members (draft : Draft) : List (String × Value) :=
  partMembers "compiler" .text draft.compiler ++
    partMembers "compiler_args" textsToJson draft.compilerArgs ++
    partMembers "cflags" textsToJson draft.cflags ++
    partMembers "include_dirs" textsToJson draft.includeDirs ++
    partMembers "headers" textsToJson draft.headers ++
    partMembers "work_dir" (Value.ofOption .text) draft.workDir

/-- A draft that has met the members of some keys only. -/
def restrict (draft : Draft) (keys : List String) : Draft where
  compiler := if "compiler" ∈ keys then draft.compiler else none
  compilerArgs := if "compiler_args" ∈ keys then draft.compilerArgs else none
  cflags := if "cflags" ∈ keys then draft.cflags else none
  includeDirs := if "include_dirs" ∈ keys then draft.includeDirs else none
  headers := if "headers" ∈ keys then draft.headers else none
  workDir := if "work_dir" ∈ keys then draft.workDir else none

theorem keys_members_sublist (draft : Draft) :
    (draft.members.map Prod.fst).Sublist memberNames := by
  simp only [members, List.map_append]
  have head := (keys_partMembers_sublist "compiler" .text draft.compiler).append
    (keys_partMembers_sublist "compiler_args" textsToJson draft.compilerArgs)
  exact ((((head.append (keys_partMembers_sublist ..)).append (keys_partMembers_sublist ..)).append
    (keys_partMembers_sublist ..)).append (keys_partMembers_sublist ..))

theorem nodup_keys_of_subperm {draft : Draft} {entries : List (String × Value)}
    (among : entries.Subperm draft.members) : (entries.map Prod.fst).Nodup := by
  have named : memberNames.Nodup := by decide
  obtain ⟨kept, same, sublist⟩ := among
  rw [← (same.map Prod.fst).nodup_iff]
  exact named.sublist ((sublist.map Prod.fst).trans draft.keys_members_sublist)

/-- One step: the next member adds its part to the draft. -/
theorem takesAs_restrict {draft : Draft} {keys : List String} {entry : String × Value}
    (given : entry ∈ draft.members) (fresh : entry.1 ∉ keys) :
    TakesAs Draft.member (draft.restrict keys) entry (draft.restrict (entry.1 :: keys)) := by
  simp only [members, List.mem_append, mem_partMembers] at given
  -- The part of a fresh key is missing yet, so its value is read and put in its place.
  rcases given with
    ((((⟨compiler, given, rfl⟩ | ⟨arguments, given, rfl⟩) | ⟨flags, given, rfl⟩) |
      ⟨directories, given, rfl⟩) | ⟨headers, given, rfl⟩) | ⟨directory, given, rfl⟩
  · apply (recovers_text compiler).takesAs
    intro input rest once
    simp [Draft.member, restrict, fresh, given, once, bind, Except.bind, pure, Except.pure]
  · apply (recovers_list recovers_text arguments).takesAs
    intro input rest once
    simp [Draft.member, restrict, fresh, given, once, readTexts, bind, Except.bind, pure,
      Except.pure]
  · apply (recovers_list recovers_text flags).takesAs
    intro input rest once
    simp [Draft.member, restrict, fresh, given, once, readTexts, bind, Except.bind, pure,
      Except.pure]
  · apply (recovers_list recovers_path directories).takesAs
    intro input rest once
    simp [Draft.member, restrict, fresh, given, once, readPaths, bind, Except.bind, pure,
      Except.pure]
  · apply (recovers_list recovers_text headers).takesAs
    intro input rest once
    simp [Draft.member, restrict, fresh, given, once, readTexts, bind, Except.bind, pure,
      Except.pure]
  · apply (recovers_optionalPath directory).takesAs
    intro input rest once
    simp [Draft.member, restrict, fresh, given, once, bind, Except.bind, pure, Except.pure]

theorem restrict_nil (draft : Draft) : draft.restrict [] = Draft.empty := rfl

theorem restrict_keys {draft : Draft} {keys : List String}
    (all : ∀ entry ∈ draft.members, entry.1 ∈ keys) : draft.restrict keys = draft := by
  simp only [members, List.mem_append, or_imp, forall_and] at all
  obtain ⟨⟨⟨⟨⟨compiler, arguments⟩, flags⟩, directories⟩, headers⟩, directory⟩ := all
  rw [restrict, kept_part compiler, kept_part arguments, kept_part flags, kept_part directories,
    kept_part headers, kept_part directory]

/-- A run: some members of a draft are taken in any order. -/
theorem takes_restrict {draft : Draft} {entries : List (String × Value)}
    (among : entries.Subperm draft.members) :
    Takes Draft.member Draft.empty entries (draft.restrict (entries.map Prod.fst).reverse) := by
  have distinct := nodup_keys_of_subperm among
  have fresh : ∀ entry ∈ entries, entry.1 ∉ ([] : List String) := fun _ _ => List.not_mem_nil
  have takes := takes_of_steps (fun _ given _ => takesAs_restrict given)
    (fun _ member => among.subset member) distinct fresh
  rwa [restrict_nil, List.append_nil] at takes

/-- The members of a draft are taken in any order. -/
theorem takes_of_perm {draft : Draft} {entries : List (String × Value)}
    (order : entries.Perm draft.members) : Takes Draft.member Draft.empty entries draft :=
  Json.takes_of_perm (fun _ given _ => takesAs_restrict given) (fun _ => restrict_keys)
    (nodup_keys_of_subperm (.refl _)) order

/-! ## Members that are refused -/

theorem member_unknown {key : String} (unknown : key ∉ memberNames) (draft : Draft)
    (input : List Char) :
    draft.member key input = .error (.unknownField key memberNames) := by
  simp only [memberNames, List.mem_cons, List.not_mem_nil, or_false, not_or] at unknown
  obtain ⟨compiler, arguments, flags, directories, headers, directory⟩ := unknown
  unfold member
  split
  all_goals first | rfl | contradiction

/-- A member is refused when its key was met before. -/
theorem member_repeated {draft : Draft} {keys : List String} {entry : String × Value}
    (given : entry ∈ draft.members) (met : entry.1 ∈ keys) (input : List Char) :
    (draft.restrict keys).member entry.1 input = .error (.duplicateField entry.1) := by
  simp only [members, List.mem_append, mem_partMembers] at given
  rcases given with
    ((((⟨part, given, rfl⟩ | ⟨part, given, rfl⟩) | ⟨part, given, rfl⟩) | ⟨part, given, rfl⟩) |
      ⟨part, given, rfl⟩) | ⟨part, given, rfl⟩
  all_goals simp [Draft.member, restrict, met, given, onceOnly, bind, Except.bind]

end Draft

/-- A text is refused as configuration, as JSON that does not describe one. -/
def Refused (text : String) (fault : Json.Error) : Prop :=
  ofJson text = .error (.invalid fault) ∧ fault.category = .data

theorem ofJson_refused {draft : Draft} {before : List (String × Value)} {key : String}
    {fault : Json.Error} {gap content : List Char} (among : before.Subperm draft.members)
    (refused : ∀ input,
      (draft.restrict (before.map Prod.fst).reverse).member key input = .error fault)
    (data : fault.category = .data) (blank : IsGap gap)
    (spelled : SpelledUpTo key true before content) :
    Refused (String.ofList (gap ++ '{' :: content)) fault := by
  have failed := (Draft.takes_restrict among).record_refused refused spelled blank
    "struct ProbeConfig" (fun draft => .ok draft.finish) readElements
  exact ⟨congrArg (Except.mapError ConfigError.invalid) failed, data⟩

/-- **Members of a configuration.** The members of a draft are read in any order and from any
spelling, and what the draft does not give is as in the standard configuration. One more member of
another name is refused, and so is one that is given twice, wherever it stands. -/
theorem ofJson_members (draft : Draft) :
    (∀ entries front content behind, entries.Perm draft.members → IsGap front → IsGap behind →
      (Value.object entries).Spelled content →
      ofJson (String.ofList (front ++ (content ++ behind))) = .ok
        { compiler := draft.compiler.getD standard.compiler
          compilerArgs := draft.compilerArgs.getD standard.compilerArgs
          cflags := draft.cflags.getD standard.cflags
          includeDirs := draft.includeDirs.getD standard.includeDirs
          headers := draft.headers.getD standard.headers
          workDir := draft.workDir.getD standard.workDir }) ∧
    (∀ before after key gap content, (before ++ after).Perm draft.members → key ∉ memberNames →
      IsGap gap → SpelledUpTo key true before content →
      Refused (String.ofList (gap ++ '{' :: content)) (.unknownField key memberNames)) ∧
    (∀ before after entry gap content behind, (before ++ after).Perm draft.members →
      entry ∈ before ++ after → IsGap gap →
      (Value.object (before ++ entry :: after)).Spelled content →
      Refused (String.ofList (gap ++ (content ++ behind))) (.duplicateField entry.1)) := by
  refine ⟨?_, ?_, ?_⟩
  · intro entries front content behind order blankFront blank spelled
    have finished : (fun draft : Draft => (.ok draft.finish : Except Json.Error Config)) draft =
        .ok draft.finish := rfl
    have recovers : Recovers readJson (.object entries) draft.finish :=
      (Draft.takes_of_perm order).recovers_record finished _ _
    have read := recovers.document_of_spelled blankFront spelled blank
    exact congrArg (Except.mapError ConfigError.invalid) read
  · intro before after key gap content order unknown blank spelled
    have among := (List.sublist_append_left before after).subperm.trans order.subperm
    exact ofJson_refused among (Draft.member_unknown unknown _) rfl blank spelled
  · intro before after entry gap content behind order repeated blank spelled
    obtain ⟨first, others, again, met, among⟩ := exists_repeated repeated
    rw [again] at spelled
    cases spelled with
    | object members =>
        have given := order.mem_iff.mp repeated
        have keyed : entry.1 ∈ (first.map Prod.fst).reverse :=
          List.mem_reverse.mpr (List.mem_map_of_mem met)
        exact ofJson_refused (among.trans order.subperm) (Draft.member_repeated given keyed) rfl
          blank (members.upTo behind)

/-- Members are read in another order with gaps around them, and a path whose letter is spelled
by its code; behind that path a member of another name is refused. -/
theorem ofJson_members_coded :
    ofJson "\x7b \"work_dir\": \"\\u0061\" , \"cflags\":[\"-O2\"], \"compiler\" : \"gcc\"\x7d" =
        .ok { standard with compiler := "gcc", cflags := ["-O2"], workDir := "a" } ∧
      Refused "\x7b \"work_dir\": \"\\u0061\" , \"cc\": \"gcc\"\x7d"
        (.unknownField "cc" memberNames) := by
  have plain (text : String) (form : text.toList.flatMap escapedForm = text.toList) :
      SpelledChars text.toList text.toList := by
    have spelled := spelledChars_escaped text.toList
    rwa [form] at spelled
  have code : hexUnit? '0' '0' '6' '1' = some 0x61 := rfl
  have coded : SpelledChar 'a' ['\\', 'u', '0', '0', '6', '1'] := .unit code rfl rfl
  have letter : SpelledChars "a".toList ['\\', 'u', '0', '0', '6', '1'] := .cons coded .nil
  have place := plain "work_dir" (by decide)
  have flag : (Value.array [.text "-O2"]).Spelled "[\"-O2\"]".toList :=
    .array (.element (.first isGap_nil) (.text (plain "-O2" (by decide))) (.ending isGap_nil))
  have compiler : Value.SpelledMembers false [("compiler", .text "gcc")]
      ", \"compiler\" : \"gcc\"\x7d".toList :=
    .member (.next isGap_nil isGap_space) (plain "compiler" (by decide)) isGap_space isGap_space
      (.text (plain "gcc" (by decide))) (.ending isGap_nil)
  let draft : Draft := ⟨some "gcc", none, some ["-O2"], none, none, some (some "a")⟩
  have order : [("work_dir", Value.text "a"), ("cflags", .array [.text "-O2"]),
      ("compiler", .text "gcc")].Perm draft.members := List.reverse_perm draft.members
  obtain ⟨reads, refuses, -⟩ := ofJson_members draft
  constructor
  · have read := reads _ [] _ [] order isGap_nil isGap_nil
      (.object (.member (.first isGap_space) place isGap_nil isGap_space (.text letter)
        (.member (.next isGap_space isGap_space) (plain "cflags" (by decide)) isGap_nil isGap_nil
          flag compiler)))
    exact read
  · exact refuses [("work_dir", .text "a")] _ "cc" [] _ order (by decide) isGap_nil
      (.member (.first isGap_space) place isGap_nil isGap_space (.text letter)
        (.key (.next isGap_space isGap_space) (plain "cc" (by decide)) ": \"gcc\"\x7d".toList))

end Config

end AbiProbe
