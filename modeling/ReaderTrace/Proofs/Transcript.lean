import Mathlib.Data.List.Induction
import ReaderTrace.Proofs.Hexadecimal
import ReaderTrace.Proofs.Inscription

/-!
The address tokens that a run gives out.

Whatever is rendered in a run, and wherever, goes through one address book. A run
that has rendered some values therefore has the book that rendering them one after
the other would leave, and their texts are the same. The book lists the things with
an identity among them, each at the place where it came first: a token tells how
many others were rendered before its own, and it is the token of nothing else. The
records show their values by the same texts.

Addresses are natural numbers here. Those of the first `2 ^ 48` things are less than
`2 ^ 53`, so numbers of double precision hold them exactly.
-/

namespace ReaderTrace

/-! ### The book after some values -/

def Value.referent? : Value → Option Referent
  | .reference referent => some referent
  | _ => none

namespace Record

/-- The things with an identity among the values, each where it comes first. -/
def firstReferents (values : List Value) : List Referent :=
  (values.filterMap Value.referent?).eraseDups

/-- The texts of values that are rendered one after the other. -/
def transcript (values : List Value) : List String :=
  (renderAll values .empty).1

/-- The address book that they leave. -/
def bookOf (values : List Value) : AddressBook :=
  (renderAll values .empty).2

section Book

variable {values : List Value}

theorem length_renderAll (values : List Value) (book : AddressBook) :
    (renderAll values book).1.length = values.length := by
  induction values generalizing book with
  | nil => rfl
  | cons value rest ih => simp [renderAll, ih]

theorem length_transcript (values : List Value) : (transcript values).length = values.length :=
  length_renderAll values .empty

theorem transcript_append (first second : List Value) :
    transcript (first ++ second) =
      transcript first ++ (renderAll second (renderAll first .empty).2).1 :=
  congrArg Prod.fst (renderAll_append first second .empty)

/-- The texts of a transcript are those of its book, which also has what came later. -/
theorem transcript_eq_map (values : List Value) :
    transcript values = values.map fun value => (render value (bookOf values)).1 := by
  have rendered := apply_renderAll_eq values .initial
  rw [Quick.apply_renderParts_eq] at rendered
  have texts : transcript values = (values.map .rendered).map
      (RecordPart.text ((values.map .rendered).foldl RecordPart.enroll .empty)) :=
    Except.ok.inj (congrArg Prod.fst rendered)
  have book : bookOf values = (values.map .rendered).foldl RecordPart.enroll .empty :=
    congrArg (fun result => result.2.addresses) rendered
  rw [texts, ← book, List.map_map]
  rfl

private theorem eraseDups_concat (referents : List Referent) (referent : Referent) :
    (referents ++ [referent]).eraseDups =
      if referent ∈ referents then referents.eraseDups
      else referents.eraseDups ++ [referent] := by
  rw [List.eraseDups_append]
  by_cases known : referent ∈ referents
  · simp [List.removeAll, known]
  · simp [List.removeAll, known, List.eraseDups_cons]

theorem firstReferents_concat (values : List Value) (value : Value) :
    firstReferents (values ++ [value]) =
      match value.referent? with
      | none => firstReferents values
      | some referent =>
          if referent ∈ firstReferents values then firstReferents values
          else firstReferents values ++ [referent] := by
  cases shown : value.referent? with
  | none => simp [firstReferents, shown]
  | some referent =>
    have listed : (values ++ [value]).filterMap Value.referent? =
        values.filterMap Value.referent? ++ [referent] := by
      simp [shown]
    simp only [firstReferents, listed, eraseDups_concat, List.mem_eraseDups]

/-- What is rendered later is listed behind what was rendered before. -/
theorem firstReferents_prefix (values : List Value) (value : Value) :
    firstReferents values <+: firstReferents (values ++ [value]) := by
  rw [firstReferents_concat]
  split
  · exact List.prefix_rfl
  · split
    · exact List.prefix_rfl
    · exact List.prefix_append _ _

theorem nodup_firstReferents (values : List Value) : (firstReferents values).Nodup := by
  induction values using List.reverseRecOn with
  | nil => exact List.nodup_nil
  | append_singleton values value ih =>
    rw [firstReferents_concat]
    split
    · exact ih
    · split
      · exact ih
      · next fresh =>
        rw [List.nodup_append]
        refine ⟨ih, by simp, ?_⟩
        intro earlier known referent last same
        rw [same, List.mem_singleton.mp last] at known
        exact fresh known

/-- The book knows what was rendered, in the order in which it came first. -/
theorem known_renderAll (values : List Value) :
    (renderAll values .empty).2.known = firstReferents values := by
  induction values using List.reverseRecOn with
  | nil => rfl
  | append_singleton values value ih =>
    rw [firstReferents_concat, ← ih, renderAll_append]
    cases value with
    | reference referent =>
      change ((renderAll values .empty).2.assign referent).known =
        if referent ∈ (renderAll values .empty).2.known then (renderAll values .empty).2.known
        else (renderAll values .empty).2.known ++ [referent]
      unfold AddressBook.assign
      split <;> rfl
    | _ => rfl

end Book

/-! ### Tokens -/

/-- Each reference among the values is written as the token of its rank among the
things with an identity, and two references are written alike only if they are to
the same thing. -/
structure Tokens (values : List Value) (texts : List String) : Prop where
  length : texts.length = values.length
  ranked : ∀ (position : Nat) (referent : Referent), values[position]? = some (Datum.reference referent) →
    ∃ rank : Nat, (firstReferents values)[rank]? = some referent ∧
      texts[position]? = some (Hexadecimal.render ((0x1000 + 0x10 * rank : Nat) : Int))
  injective : ∀ (position other : Nat) (referent otherReferent : Referent),
    values[position]? = some (Datum.reference referent) →
    values[other]? = some (Datum.reference otherReferent) →
    (texts[position]? = texts[other]? ↔ referent = otherReferent)

/-- A reference that is rendered after the values gets the token of its place in
the book. -/
private theorem ranked_last (values : List Value) (referent : Referent) :
    ∃ rank : Nat, (firstReferents (values ++ [Datum.reference referent]))[rank]? = some referent ∧
      (render (.reference referent) (renderAll values .empty).2).1 =
        Hexadecimal.render ((0x1000 + 0x10 * rank : Nat) : Int) := by
  have knownEq : ((renderAll values .empty).2.assign referent).known =
      firstReferents (values ++ [Datum.reference referent]) := by
    rw [← known_renderAll, renderAll_append]
    rfl
  have member : referent ∈ firstReferents (values ++ [Datum.reference referent]) := by
    simp [firstReferents, Value.referent?]
  have within := List.idxOf_lt_length_iff.mpr member
  refine ⟨(firstReferents (values ++ [Datum.reference referent])).idxOf referent, ?_, ?_⟩
  · rw [List.getElem?_eq_getElem within, List.getElem_idxOf within]
  · rw [← knownEq]
    rfl

theorem ranked_transcript (values : List Value) :
    ∀ (position : Nat) (referent : Referent), values[position]? = some (Datum.reference referent) →
      ∃ rank : Nat, (firstReferents values)[rank]? = some referent ∧
        (transcript values)[position]? =
          some (Hexadecimal.render ((0x1000 + 0x10 * rank : Nat) : Int)) := by
  induction values using List.reverseRecOn with
  | nil => intro position referent found; cases found
  | append_singleton values value ih =>
    intro position referent found
    have lengthEq := length_transcript values
    rw [transcript_append]
    by_cases earlier : position < values.length
    · rw [List.getElem?_append_left earlier] at found
      obtain ⟨rank, place, text⟩ := ih position referent found
      obtain ⟨added, grown⟩ := firstReferents_prefix values value
      have within : rank < (firstReferents values).length := (List.getElem?_eq_some_iff.mp place).1
      refine ⟨rank, ?_, ?_⟩
      · rw [← grown, List.getElem?_append_left within]
        exact place
      · rw [List.getElem?_append_left (by omega)]
        exact text
    · have last : position = values.length := by
        have within := (List.getElem?_eq_some_iff.mp found).1
        rw [List.length_append, List.length_singleton] at within
        omega
      subst last
      rw [List.getElem?_concat_length] at found
      cases found
      obtain ⟨rank, place, text⟩ := ranked_last values referent
      refine ⟨rank, place, ?_⟩
      rw [← text, ← lengthEq]
      exact List.getElem?_concat_length

theorem tokens_transcript (values : List Value) : Tokens values (transcript values) where
  length := length_transcript values
  ranked := ranked_transcript values
  injective := by
    intro position other referent otherReferent found otherFound
    obtain ⟨rank, place, text⟩ := ranked_transcript values position referent found
    obtain ⟨otherRank, otherPlace, otherText⟩ :=
      ranked_transcript values other otherReferent otherFound
    rw [text, otherText, Option.some_inj, Hexadecimal.render_injective.eq_iff]
    constructor
    · intro addressEq
      have rankEq : rank = otherRank := by omega
      rw [rankEq, otherPlace] at place
      exact (Option.some.inj place).symm
    · intro same
      have within : rank < (firstReferents values).length := (List.getElem?_eq_some_iff.mp place).1
      rw [← same, ← place] at otherPlace
      have rankEq := (List.getElem?_inj within (nodup_firstReferents values)).mp otherPlace.symm
      rw [rankEq]

end Record

/-! ### Renderings of a run -/

/-- Single edits have led from one library to the other, and they have rendered the
values, in this order. -/
inductive Renders (library : Library) : List Value → Library → Prop
  | refl : Renders library [] library
  | rendered {values : List Value} {middle : Library} (value : Value)
      (before : Renders library values middle) :
      Renders library (values ++ [value]) ((Edit.render value).apply middle).2
  | silent {values : List Value} {middle after : Library}
      (before : Renders library values middle)
      (step : Edited middle after ∨ Settling middle after)
      (same : after.addresses = middle.addresses) : Renders library values after

section Renders

variable {library middle after : Library} {values more : List Value}

theorem Renders.trans (first : Renders library values middle) (second : Renders middle more after) :
    Renders library (values ++ more) after := by
  induction second with
  | refl => simpa using first
  | @rendered more middle value before ih =>
    rw [← List.append_assoc]
    exact .rendered value ih
  | silent before step same ih => exact .silent ih step same

theorem Renders.single (value : Value) (library : Library) :
    Renders library [value] ((Edit.render value).apply library).2 :=
  .rendered value .refl

/-- The book is the one that rendering the values on their own leaves. -/
theorem Renders.addresses (renders : Renders library values after) :
    after.addresses = (Record.renderAll values library.addresses).2 := by
  induction renders with
  | refl => rfl
  | rendered value before ih =>
    rw [Record.renderAll_append, ← ih]
    rfl
  | silent before step same ih => rw [same, ih]

theorem Edited.renders (edited : Edited library after) : ∃ values, Renders library values after := by
  have step := edited
  cases edited with
  | rendered value => exact ⟨[value], .single value library⟩
  | _ => exact ⟨[], .silent .refl (Or.inl step) rfl⟩

theorem Settling.renders (settling : Settling library after) : Renders library [] after := by
  cases settling with
  | created name => exact .silent .refl (Or.inr (.created name)) rfl
  | closed space => exact .silent .refl (Or.inr (.closed space)) rfl
  | forgotten space => exact .silent .refl (Or.inr (.forgotten space)) rfl

theorem Rewritten.renders {settles : Prop} (rewritten : Rewritten settles library after) :
    ∃ values, Renders library values after := by
  induction rewritten with
  | refl => exact ⟨[], .refl⟩
  | tail _ step ih =>
    obtain ⟨values, before⟩ := ih
    rcases step with edited | ⟨_, settling⟩
    · obtain ⟨more, rest⟩ := edited.renders
      exact ⟨values ++ more, before.trans rest⟩
    · exact ⟨values ++ [], before.trans settling.renders⟩

end Renders

/-! ### Where values are rendered -/

def RecordPart.value? : RecordPart → Option Value
  | .bare _ => none
  | .rendered value => some value

/-- Among the texts of the parts of a record, those of the values. -/
def RecordPart.renderedTexts : List RecordPart → List String → List String
  | .rendered _ :: parts, text :: texts => text :: renderedTexts parts texts
  | .bare _ :: parts, _ :: texts => renderedTexts parts texts
  | _, _ => []

/-- The edit renders the values, and its answer holds their texts. -/
def Edit.Prints {α : Type} (change : Edit α) (texts : α → List String)
    (values : List Value) : Prop :=
  ∀ library, ∃ answer after, change.apply library = (.ok answer, after) ∧
    Renders library values after ∧
    texts answer = (Record.renderAll values library.addresses).1

theorem prints_render (value : Value) : (Edit.render value).Prints (fun text => [text]) [value] :=
  fun library => ⟨_, _, rfl, .single value library, rfl⟩

theorem prints_renderAll (values : List Value) : (Edit.renderAll values).Prints id values := by
  intro library
  refine ⟨_, _, rfl, ?_, rfl⟩
  induction values generalizing library with
  | nil => exact .refl
  | cons value rest ih =>
    exact (Renders.single value library).trans (ih ((Edit.render value).apply library).2)

theorem prints_renderParts (parts : List RecordPart) :
    (Quick.renderParts parts).Prints (RecordPart.renderedTexts parts)
      (parts.filterMap RecordPart.value?) := by
  intro library
  induction parts generalizing library with
  | nil => exact ⟨[], library, rfl, .refl, rfl⟩
  | cons part rest ih =>
    cases part with
    | bare text =>
      obtain ⟨texts, after, applied, renders, textsEq⟩ := ih library
      refine ⟨text :: texts, after, ?_, renders, textsEq⟩
      change ((Quick.renderParts rest) >>= fun texts => pure (text :: texts)).apply library = _
      rw [Edit.apply_bind, applied]
      rfl
    | rendered value =>
      obtain ⟨texts, after, applied, renders, textsEq⟩ := ih ((Edit.render value).apply library).2
      refine ⟨(Record.render value library.addresses).1 :: texts, after, ?_, ?_, ?_⟩
      · change ((Quick.renderParts rest) >>= fun texts =>
          pure ((Record.render value library.addresses).1 :: texts)).apply
            ((Edit.render value).apply library).2 = _
        rw [Edit.apply_bind, applied]
        rfl
      · exact (Renders.single value library).trans renders
      · exact congrArg ((Record.render value library.addresses).1 :: ·) textsEq

theorem prints_renderResult (result : Value) :
    (Quick.renderResult .value result).Prints Option.toList [result] :=
  fun library => ⟨_, _, rfl, .single result library, rfl⟩

/-! ### The statement about runs -/

/-- After the values `before` the edit renders the values `shown`, and its answer
holds what they add to the transcript. -/
def Edit.Transcribes {α : Type} (change : Edit α) (texts : α → List String)
    (before shown : List Value) (library : Library) : Prop :=
  ∃ answer after, change.apply library = (.ok answer, after) ∧
    Renders .initial (before ++ shown) after ∧
    Record.transcript (before ++ shown) = Record.transcript before ++ texts answer

theorem Edit.Prints.transcribes {α : Type} {change : Edit α} {texts : α → List String}
    {before shown : List Value} {library : Library} (prints : change.Prints texts shown)
    (renders : Renders .initial before library) :
    change.Transcribes texts before shown library := by
  obtain ⟨answer, after, applied, onward, textsEq⟩ := prints library
  refine ⟨answer, after, applied, renders.trans onward, ?_⟩
  rw [Record.transcript_append, textsEq, renders.addresses]
  rfl

/-- At every point of every run: the values rendered so far have a transcript in
which each reference is written as the token of its rank. What a shadow shows of its
arguments and of its result, what an accessor shows of its arguments and of its
result, and what is rendered on its own continues that transcript, and whatever is
done later leaves it as it is. The records that operations have written until then show
their values by the texts that stand in the transcript. -/
theorem Reachable.tokens_by_rank {moment : Moment} (reachable : Reachable .free moment)
    {during : Library} (onward : Rewritten True moment.library during) :
    (∃ values, Renders .initial values during) ∧
    ∀ values, Renders .initial values during →
      Record.Tokens values (Record.transcript values) ∧
      (∀ value, (Edit.render value).Transcribes (fun text => [text]) values [value] during) ∧
      (∀ arguments, (Edit.renderAll arguments).Transcribes id values arguments during) ∧
      (∀ parts, (Quick.renderParts parts).Transcribes (RecordPart.renderedTexts parts) values
        (parts.filterMap RecordPart.value?) during) ∧
      (∀ result, (Quick.renderResult .value result).Transcribes Option.toList values [result]
        during) ∧
      Record.transcript values =
        values.map (fun value => (Record.render value (Record.bookOf values)).1) ∧
      (∀ operation stream record,
        Happening.called operation (.write stream record) ∈ moment.history →
        ¬operation.Dictates →
          Record.Legible operation (moment.Got operation) (Record.bookOf values) record) ∧
      ∀ later, Rewritten True during later →
        ∃ more, Renders .initial (values ++ more) later ∧
          Record.transcript values <+: Record.transcript (values ++ more) := by
  have wholeRun := reachable.rewritten.trans onward
  refine ⟨Rewritten.renders wholeRun, fun values renders => ?_⟩
  have legible : World.Legible { moment.toWorld with library := during } :=
    reachable.inscribed.1.later onward.known_grows
  have book : during.addresses = Record.bookOf values := renders.addresses
  rw [← book]
  refine ⟨Record.tokens_transcript values, fun value => (prints_render value).transcribes renders,
    fun arguments => (prints_renderAll arguments).transcribes renders,
    fun parts => (prints_renderParts parts).transcribes renders,
    fun result => (prints_renderResult result).transcribes renders, ?_, legible,
    fun later further => ?_⟩
  · rw [book]
    exact Record.transcript_eq_map values
  obtain ⟨more, rest⟩ := Rewritten.renders further
  refine ⟨more, renders.trans rest, ?_⟩
  rw [Record.transcript_append]
  exact List.prefix_append _ _

/-- Between two renderings of a table an accessor writes a record that shows an object
file. -/
def Moment.tabled : Moment :=
  (((((Moment.initial.start (.createSpace none)).start
    (.addObjectFile { index := 0 } "a.out" none)).start (.setDebug true)).start
      (.render (.table (.reader { index := 0 })))).start
        (.access { index := 0 } (.findByAddress (.objectFile { index := 0 })))).start
          (.render (.table (.reader { index := 0 })))

theorem tokens_by_rank_tabled :
    Record.Tokens
      [.table (.reader { index := 0 }), .objectFile { index := 0 },
        .table (.reader { index := 0 })]
      ["0x1000", "0x1010", "0x1000"] ∧
    ∃ operation, Record.Legible operation (Moment.tabled.Got operation)
      (Record.bookOf [.table (.reader { index := 0 }), .objectFile { index := 0 },
        .table (.reader { index := 0 })])
      "qf->findCompunitSymtabByAddress (a.out, 0x1010)" := by
  have may : ∀ {moment : Moment} {happening : Happening}, Rules.free moment happening :=
    fun _ _ => trivial
  have reachable : Reachable .free Moment.tabled :=
    .start _ (.start _ (.start _ (.start _ (.start _ (.start _ .initial trivial may) trivial may)
      trivial may) trivial may) trivial may) trivial may
  have created : Renders .initial [] ((ProgramSpace.create none).apply .initial).2 :=
    .silent .refl (Or.inr (.created none)) rfl
  have added : Renders .initial [] (ProgramSpace.withFile
      ((ProgramSpace.create none).apply .initial).2 { index := 0 } "a.out" none) :=
    .silent created (Or.inl (.fileAdded _ _ _ rfl)) rfl
  have traced := Renders.silent added (Or.inl (.debugSet true)) rfl
  have renders : Renders .initial
      [.table (.reader { index := 0 }), .objectFile { index := 0 },
        .table (.reader { index := 0 })] Moment.tabled.library :=
    .rendered _ (.rendered _ (.rendered _ traced))
  obtain ⟨tokens, _, _, _, _, _, records, _⟩ := (reachable.tokens_by_rank .refl).2 _ renders
  have texts : Record.transcript
      [.table (.reader { index := 0 }), .objectFile { index := 0 },
        .table (.reader { index := 0 })] = ["0x1000", "0x1010", "0x1000"] := by
    decide
  rw [texts] at tokens
  have written : Happening.called
      (.access { index := 0 } (.findByAddress (.objectFile { index := 0 })))
      (.write .console "qf->findCompunitSymtabByAddress (a.out, 0x1010)") ∈
      Moment.tabled.history :=
    @List.mem_of_getElem? _ _ 9 _ rfl
  exact ⟨tokens, _, records _ _ _ written not_false⟩

end ReaderTrace
