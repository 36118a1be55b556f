import IntentPolicy.Configuration.Environment
import IntentPolicy.Text.Split
import Mathlib.Data.List.TakeWhile

namespace IntentPolicy

/-!
# Variables are put in by one substitution

Every text is cut in one way at each `${` and the nearest `}` behind it.  What comes of the
text is settled by the cut and the texts of the names alone: the texts stand where the names
were mentioned and are not cut again, the first name without a text is the error, and an
opening that is never closed is the error where all names in front of it have texts.
-/

/-- A name to replace, with the characters that are kept in front of it. -/
structure Mention where
  front : List Char
  name : String

namespace Mention

/-- A mention with its name written in some way. -/
def written (write : String → List Char) (mention : Mention) : List Char :=
  mention.front ++ write mention.name

/-- A name as a text mentions it. -/
def spelled (name : String) : List Char :=
  '$' :: '\x7b' :: (name.toList ++ ['\x7d'])

/-- A mention is cut at the first opening, and at the nearest brace that closes it. -/
structure IsNearest (mention : Mention) : Prop where
  first : ¬ ['$', '\x7b'] <:+: mention.front
  nearest : '\x7d' ∉ mention.name.toList

end Mention

/-- A text that is cut at its mentions: with what is kept behind the last one, and with what
follows an opening there that is not closed. -/
structure Template where
  mentions : List Mention
  rest : List Char
  unclosed? : Option (List Char)

namespace Template

/-- All that is kept of a template, with each name written in some way. -/
def written (write : String → List Char) (template : Template) : List Char :=
  template.mentions.flatMap (Mention.written write) ++ template.rest

/-- The opening that is not closed, with what follows it. -/
def opened (template : Template) : List Char :=
  template.unclosed?.elim [] fun begun => '$' :: '\x7b' :: begun

/-- A template is a text cut at each opening, from the first one on, and at the nearest brace
that closes it. -/
structure IsCutOf (template : Template) (characters : List Char) : Prop where
  whole : template.written Mention.spelled ++ template.opened = characters
  mentioned : ∀ mention ∈ template.mentions, mention.IsNearest
  kept : ¬ ['$', '\x7b'] <:+: template.rest
  unclosed : ∀ begun ∈ template.unclosed?, '\x7d' ∉ begun

/-- What comes of a template in an environment. -/
inductive Yields (environment : Environment) (template : Template) :
    Except ConfigurationError (List Char) → Prop where
  | replaced {value : String → String}
      (held : ∀ mention ∈ template.mentions,
        environment.text? mention.name = some (value mention.name))
      (closed : template.unclosed? = none) :
      Yields environment template (.ok (template.written fun name => (value name).toList))
  | unset {before behind : List Mention} {mention : Mention}
      (parts : template.mentions = before ++ mention :: behind)
      (held : ∀ earlier ∈ before, (environment.text? earlier.name).isSome)
      (missing : environment.text? mention.name = none) :
      Yields environment template (.error (.unsetVariable mention.name))
  | unterminated
      (held : ∀ mention ∈ template.mentions, (environment.text? mention.name).isSome)
      (opening : template.unclosed?.isSome) :
      Yields environment template (.error .openInterpolation)

end Template

/-- A name without a closing brace is cut off at the brace behind it. -/
theorem Mention.cut_at_closing
    {name : List Char}
    (behind : List Char)
    (nearest : '\x7d' ∉ name) :
    (name ++ '\x7d' :: behind).takeWhile (· ≠ '\x7d') = name ∧
      (name ++ '\x7d' :: behind).dropWhile (· ≠ '\x7d') = '\x7d' :: behind := by
  apply cut_at_first
  · intro character member
    exact decide_eq_true (ne_of_mem_of_not_mem member nearest)
  · simp

namespace Environment

variable {environment : Environment} {front behind : List Char}

/-- A character that opens no replacement is kept, whatever stands behind it. -/
theorem interpolate_cons_of_plain
    {character : Char}
    {rest : List Char}
    (plain : ¬ ['$', '\x7b'] <+: character :: rest) :
    environment.interpolate (character :: rest) =
      (character :: ·) <$> environment.interpolate rest := by
  rw [interpolate]
  · rfl
  · rintro others rfl rfl
    exact plain (List.prefix_append ['$', '\x7b'] others)

/-- Characters without an opening are kept, where no brace behind them makes it one. -/
theorem interpolate_append_of_plain
    (plain : ¬ ['$', '\x7b'] <:+: front)
    (noBrace : ¬ ['\x7b'] <+: behind) :
    environment.interpolate (front ++ behind) =
      (front ++ ·) <$> environment.interpolate behind := by
  induction front with
  | nil => simp
  | cons character front inductionHypothesis =>
      have plainBehind : ¬ ['$', '\x7b'] <:+: front := fun inside => plain (List.infix_cons inside)
      have notHere : ¬ ['$', '\x7b'] <+: character :: (front ++ behind) := by
        intro opens
        obtain ⟨rfl, brace⟩ := List.cons_prefix_cons.mp opens
        cases front with
        | nil => exact noBrace brace
        | cons next front =>
            obtain ⟨rfl, -⟩ := List.cons_prefix_cons.mp brace
            exact plain (List.prefix_append ['$', '\x7b'] front).isInfix
      rw [List.cons_append, interpolate_cons_of_plain notHere, inductionHypothesis plainBehind,
        Functor.map_map]
      rfl

/-- A text that opens no replacement is kept as it is. -/
theorem interpolate_of_plain
    (environment : Environment)
    {characters : List Char}
    (plain : ¬ ['$', '\x7b'] <:+: characters) :
    environment.interpolate characters = .ok characters := by
  have kept : environment.interpolate (characters ++ []) =
      (characters ++ ·) <$> environment.interpolate [] :=
    interpolate_append_of_plain plain (by simp)
  rw [List.append_nil, interpolate] at kept
  rw [kept]
  exact congrArg Except.ok (List.append_nil characters)

/-- A name is replaced by its value in front of what comes of the rest, or is the error. -/
theorem interpolate_spelled_append
    {name : String}
    (nearest : '\x7d' ∉ name.toList) :
    environment.interpolate (Mention.spelled name ++ behind) =
      match environment.text? name with
      | none => .error (.unsetVariable name)
      | some value => (value.toList ++ ·) <$> environment.interpolate behind := by
  have shape :
      Mention.spelled name ++ behind = '$' :: '\x7b' :: (name.toList ++ '\x7d' :: behind) := by
    simp [Mention.spelled]
  obtain ⟨taken, left⟩ := Mention.cut_at_closing behind nearest
  rw [shape, interpolate]
  split
  · next noClosing =>
      rw [left] at noClosing
      cases noClosing
  · next following found =>
      rw [left] at found
      obtain ⟨-, rfl⟩ := List.cons.inj found
      rw [taken, String.ofList_toList]
      dsimp only
      cases environment.text? name with
      | none => rfl
      | some value => rfl

/-- An opening that is not closed is an error. -/
theorem interpolate_unclosed
    (unclosed : '\x7d' ∉ behind) :
    environment.interpolate ('$' :: '\x7b' :: behind) = .error .openInterpolation := by
  have noClosing : behind.dropWhile (· ≠ '\x7d') = [] := by
    apply List.dropWhile_eq_nil_iff.mpr
    intro character member
    simpa using ne_of_mem_of_not_mem member unclosed
  rw [interpolate]
  split
  · rfl
  · next found => rw [noClosing] at found; cases found

/-- A mention comes to what is kept in front of it and the value of its name, or to the error. -/
theorem interpolate_mention_append
    {mention : Mention}
    (nearest : mention.IsNearest) :
    environment.interpolate (mention.written Mention.spelled ++ behind) =
      match environment.text? mention.name with
      | none => .error (.unsetVariable mention.name)
      | some value => (mention.front ++ value.toList ++ ·) <$> environment.interpolate behind := by
  have frontKept :
      environment.interpolate (mention.front ++ (Mention.spelled mention.name ++ behind)) =
        (mention.front ++ ·) <$>
          environment.interpolate (Mention.spelled mention.name ++ behind) :=
    interpolate_append_of_plain nearest.first (by simp [Mention.spelled])
  rw [Mention.written, List.append_assoc, frontKept, interpolate_spelled_append nearest.nearest]
  cases environment.text? mention.name with
  | none => rfl
  | some value => simp

/-- Mentions whose names all have values come to them, with what is kept between. -/
theorem interpolate_mentions_append
    {mentions : List Mention}
    {value : String → String}
    (nearest : ∀ mention ∈ mentions, mention.IsNearest)
    (held : ∀ mention ∈ mentions, environment.text? mention.name = some (value mention.name)) :
    environment.interpolate (mentions.flatMap (Mention.written Mention.spelled) ++ behind) =
      (mentions.flatMap (Mention.written fun name => (value name).toList) ++ ·) <$>
        environment.interpolate behind := by
  induction mentions with
  | nil => simp
  | cons mention mentions inductionHypothesis =>
      obtain ⟨nearestHere, nearestBehind⟩ := List.forall_mem_cons.mp nearest
      obtain ⟨heldHere, heldBehind⟩ := List.forall_mem_cons.mp held
      rw [List.flatMap_cons, List.append_assoc, interpolate_mention_append nearestHere, heldHere,
        inductionHypothesis nearestBehind heldBehind]
      simp [Mention.written]

/-- Names that are all set have values. -/
theorem exists_values
    {mentions : List Mention}
    (held : ∀ mention ∈ mentions, (environment.text? mention.name).isSome) :
    ∃ value : String → String,
      ∀ mention ∈ mentions, environment.text? mention.name = some (value mention.name) := by
  refine ⟨fun name => (environment.text? name).getD "", fun mention member => ?_⟩
  obtain ⟨value, found⟩ := Option.isSome_iff_exists.mp (held mention member)
  simp [found]

end Environment

namespace Template

variable {environment : Environment} {template template' : Template} {characters : List Char}

/-- What a template yields is what comes of the text that it is cut from. -/
theorem Yields.interpolate_eq
    {result : Except ConfigurationError (List Char)}
    (yields : template.Yields environment result)
    (isCut : template.IsCutOf characters) :
    environment.interpolate characters = result := by
  obtain ⟨whole, mentioned, kept, unclosed⟩ := isCut
  rw [← whole, written, List.append_assoc]
  cases yields with
  | replaced held closed =>
      have nothingOpened : template.opened = [] := by rw [opened, closed]; rfl
      rw [Environment.interpolate_mentions_append mentioned held, nothingOpened, List.append_nil,
        Environment.interpolate_of_plain environment kept]
      rfl
  | unset parts held missing =>
      obtain ⟨value, values⟩ := Environment.exists_values held
      rw [parts] at mentioned ⊢
      obtain ⟨earlier, later⟩ := List.forall_mem_append.mp mentioned
      have here := later _ List.mem_cons_self
      rw [List.flatMap_append, List.flatMap_cons, List.append_assoc, List.append_assoc,
        Environment.interpolate_mentions_append earlier values,
        Environment.interpolate_mention_append here, missing]
      rfl
  | unterminated held opening =>
      obtain ⟨value, values⟩ := Environment.exists_values held
      obtain ⟨begun, begins⟩ := Option.isSome_iff_exists.mp opening
      have opens : template.opened = '$' :: '\x7b' :: begun := by rw [opened, begins]; rfl
      rw [Environment.interpolate_mentions_append mentioned values, opens,
        Environment.interpolate_append_of_plain kept (by simp),
        Environment.interpolate_unclosed (unclosed begun begins)]
      rfl

/-- Something comes of every template in every environment. -/
theorem exists_yields
    (environment : Environment)
    (template : Template) :
    ∃ result, template.Yields environment result := by
  cases found :
      template.mentions.find? fun mention => (environment.text? mention.name).isNone with
  | some mention =>
      obtain ⟨missing, before, behind, parts, held⟩ := List.find?_eq_some_iff_append.mp found
      exact ⟨_, .unset parts (by simpa using held) (by simpa using missing)⟩
  | none =>
      have held : ∀ mention ∈ template.mentions, (environment.text? mention.name).isSome := by
        simpa [Option.isSome_iff_ne_none] using List.find?_eq_none.mp found
      cases opening : template.unclosed? with
      | some begun => exact ⟨_, .unterminated held (by rw [opening]; rfl)⟩
      | none =>
          obtain ⟨value, values⟩ := Environment.exists_values held
          exact ⟨_, .replaced values opening⟩

/-- Where a text has an opening, it has a first one. -/
theorem exists_first_opening
    (opens : ['$', '\x7b'] <:+: characters) :
    ∃ front behind, characters = front ++ '$' :: '\x7b' :: behind ∧
      ¬ ['$', '\x7b'] <:+: front := by
  induction characters with
  | nil => simp at opens
  | cons character rest inductionHypothesis =>
      by_cases here : ['$', '\x7b'] <+: character :: rest
      · obtain ⟨behind, whole⟩ := here
        exact ⟨[], behind, whole.symm, by simp⟩
      · have inRest := (List.infix_cons_iff.mp opens).resolve_left here
        obtain ⟨front, behind, rfl, first⟩ := inductionHypothesis inRest
        refine ⟨character :: front, behind, rfl, fun inside => ?_⟩
        rcases List.infix_cons_iff.mp inside with atStart | inFront
        · exact here (atStart.trans (List.prefix_append _ _))
        · exact first inFront

/-- An opening does not end within another one, so none stands in front of the first. -/
theorem eq_nil_of_append_opening
    {front between behind behind' : List Char}
    (first : ¬ ['$', '\x7b'] <:+: front ++ between)
    (same : '$' :: '\x7b' :: behind = between ++ '$' :: '\x7b' :: behind') :
    between = [] := by
  rcases List.append_eq_cons_iff.mp same.symm with ⟨none, -⟩ | ⟨later, rfl, sameLater⟩
  · exact none
  · rcases List.append_eq_cons_iff.mp sameLater.symm with ⟨-, wrong⟩ | ⟨others, rfl, -⟩
    · simp at wrong
    · exact (first ⟨front, others, by simp⟩).elim

/-- What stands in front of the first opening and behind it is determined. -/
theorem append_opening_inj
    {front front' behind behind' : List Char}
    (first : ¬ ['$', '\x7b'] <:+: front)
    (first' : ¬ ['$', '\x7b'] <:+: front')
    (same : front ++ '$' :: '\x7b' :: behind = front' ++ '$' :: '\x7b' :: behind') :
    front = front' ∧ behind = behind' := by
  rcases List.append_eq_append_iff.mp same with ⟨between, rfl, parts⟩ | ⟨between, rfl, parts⟩
  · obtain rfl := eq_nil_of_append_opening first' parts
    simpa using parts
  · obtain rfl := eq_nil_of_append_opening first parts
    simpa [eq_comm] using parts

/-- What a mention is and what stands behind it is determined. -/
theorem written_append_inj
    {mention mention' : Mention}
    {behind behind' : List Char}
    (isNearest : mention.IsNearest)
    (isNearest' : mention'.IsNearest)
    (same :
      mention.written Mention.spelled ++ behind = mention'.written Mention.spelled ++ behind') :
    mention = mention' ∧ behind = behind' := by
  obtain ⟨front, name⟩ := mention
  obtain ⟨front', name'⟩ := mention'
  simp only [Mention.written, Mention.spelled, List.append_assoc, List.cons_append,
    List.nil_append] at same
  obtain ⟨rfl, sameNames⟩ := append_opening_inj isNearest.first isNearest'.first same
  have names := congrArg (List.takeWhile (· ≠ '\x7d')) sameNames
  rw [(Mention.cut_at_closing behind isNearest.nearest).1,
    (Mention.cut_at_closing behind' isNearest'.nearest).1] at names
  obtain rfl := String.toList_inj.mp names
  simpa using sameNames

/-- A mention in front of a template. -/
theorem isCutOf_cons_iff
    {mention : Mention}
    {mentions : List Mention}
    {rest : List Char}
    {unclosed? : Option (List Char)} :
    (Template.mk (mention :: mentions) rest unclosed?).IsCutOf characters ↔
      mention.IsNearest ∧ ∃ behind, (Template.mk mentions rest unclosed?).IsCutOf behind ∧
        mention.written Mention.spelled ++ behind = characters := by
  constructor
  · rintro ⟨whole, mentioned, kept, unclosed⟩
    obtain ⟨here, later⟩ := List.forall_mem_cons.mp mentioned
    refine ⟨here, _, ⟨rfl, later, kept, unclosed⟩, ?_⟩
    rw [← whole]
    simp [written, opened]
  · rintro ⟨here, _, ⟨rfl, later, kept, unclosed⟩, whole⟩
    refine ⟨?_, List.forall_mem_cons.mpr ⟨here, later⟩, kept, unclosed⟩
    rw [← whole]
    simp [written, opened]

/-- What stands behind the last mention of a text is determined. -/
theorem ending_inj
    (kept : ¬ ['$', '\x7b'] <:+: template.rest)
    (kept' : ¬ ['$', '\x7b'] <:+: template'.rest)
    (same : template.rest ++ template.opened = template'.rest ++ template'.opened) :
    template.rest = template'.rest ∧ template.unclosed? = template'.unclosed? := by
  obtain ⟨_, rest, unclosed?⟩ := template
  obtain ⟨_, rest', unclosed'?⟩ := template'
  cases unclosed? with
  | none =>
      cases unclosed'? with
      | none => simpa [opened] using same
      | some begun' => exact (kept ⟨rest', begun', by simpa [opened] using same.symm⟩).elim
  | some begun =>
      cases unclosed'? with
      | none => exact (kept' ⟨rest, begun, by simpa [opened] using same⟩).elim
      | some begun' =>
          obtain ⟨sameRest, sameBegun⟩ := append_opening_inj kept kept' same
          exact ⟨sameRest, congrArg some sameBegun⟩

/-- A text with a mention in front is not cut without one. -/
theorem IsCutOf.mentions_ne_nil
    {mention : Mention}
    {behind : List Char}
    (isCut : template.IsCutOf (mention.written Mention.spelled ++ behind))
    (isNearest : mention.IsNearest) :
    template.mentions ≠ [] := by
  obtain ⟨mentions, rest, unclosed?⟩ := template
  obtain ⟨whole, -, kept, unclosed⟩ := isCut
  rintro rfl
  have parts :
      mention.written Mention.spelled ++ behind =
        mention.front ++ '$' :: '\x7b' :: (mention.name.toList ++ '\x7d' :: behind) := by
    simp [Mention.written, Mention.spelled]
  rw [parts] at whole
  cases unclosed? with
  | none =>
      apply kept
      exact ⟨mention.front, mention.name.toList ++ '\x7d' :: behind,
        by simpa [written, opened] using whole.symm⟩
  | some begun =>
      obtain ⟨-, rfl⟩ := append_opening_inj kept isNearest.first whole
      exact unclosed _ rfl (by simp)

/-- A text is cut in one way only. -/
theorem IsCutOf.unique
    (isCut : template.IsCutOf characters)
    (isCut' : template'.IsCutOf characters) :
    template = template' := by
  obtain ⟨mentions, rest, unclosed?⟩ := template
  obtain ⟨mentions', rest', unclosed'?⟩ := template'
  -- Both have the same first mention, if one has any, and behind it the same text is left.
  induction mentions generalizing characters mentions' with
  | nil =>
      cases mentions' with
      | nil =>
          have same := isCut.whole.trans isCut'.whole.symm
          obtain ⟨rfl, rfl⟩ := ending_inj isCut.kept isCut'.kept same
          rfl
      | cons mention' mentions' =>
          obtain ⟨isNearest', behind', -, rfl⟩ := isCutOf_cons_iff.mp isCut'
          exact (isCut.mentions_ne_nil isNearest' rfl).elim
  | cons mention mentions inductionHypothesis =>
      obtain ⟨isNearest, behind, cutBehind, rfl⟩ := isCutOf_cons_iff.mp isCut
      cases mentions' with
      | nil => exact (isCut'.mentions_ne_nil isNearest rfl).elim
      | cons mention' mentions' =>
          obtain ⟨isNearest', behind', cutBehind', same⟩ := isCutOf_cons_iff.mp isCut'
          obtain ⟨rfl, rfl⟩ := written_append_inj isNearest' isNearest same
          cases inductionHypothesis cutBehind mentions' cutBehind'
          rfl

/-- Every text is cut: at its first opening and the nearest brace, and so on behind the brace. -/
theorem exists_isCutOf
    (characters : List Char) :
    ∃ template : Template, template.IsCutOf characters := by
  by_cases opens : ['$', '\x7b'] <:+: characters
  · obtain ⟨front, behind, rfl, first⟩ := exists_first_opening opens
    by_cases closes : '\x7d' ∈ behind
    · obtain ⟨name, later, rfl, nearest⟩ := List.eq_append_cons_of_mem closes
      obtain ⟨template, isCut⟩ := exists_isCutOf later
      have isNearest : Mention.IsNearest ⟨front, String.ofList name⟩ :=
        ⟨first, by simpa using nearest⟩
      have whole :
          Mention.written Mention.spelled ⟨front, String.ofList name⟩ ++ later =
            front ++ '$' :: '\x7b' :: (name ++ '\x7d' :: later) := by
        simp [Mention.written, Mention.spelled]
      exact ⟨_, isCutOf_cons_iff.mpr ⟨isNearest, later, isCut, whole⟩⟩
    · have isCut : IsCutOf ⟨[], front, some behind⟩ (front ++ '$' :: '\x7b' :: behind) :=
        ⟨rfl, by simp, first, by simpa using closes⟩
      exact ⟨_, isCut⟩
  · have isCut : IsCutOf ⟨[], characters, none⟩ characters :=
      ⟨by simp [written, opened], by simp, opens, by simp⟩
    exact ⟨_, isCut⟩
termination_by characters.length

end Template

/--
A text is cut at its mentions in exactly one way, and what comes of it is what the template
yields: the texts in place of the names with all else kept, or the first name that is not set to
a text, or the opening that is not closed.
-/
theorem interpolation_is_one_substitution
    (environment : Environment)
    (characters : List Char) :
    (∃! template : Template, template.IsCutOf characters) ∧
      ∀ result, environment.interpolate characters = result ↔
        ∃ template : Template, template.IsCutOf characters ∧
          template.Yields environment result := by
  obtain ⟨template, isCut⟩ := Template.exists_isCutOf characters
  refine ⟨⟨template, isCut, fun other otherCut => otherCut.unique isCut⟩, fun result => ?_⟩
  constructor
  · rintro rfl
    obtain ⟨result, yields⟩ := template.exists_yields environment
    exact ⟨template, isCut, (yields.interpolate_eq isCut).symm ▸ yields⟩
  · rintro ⟨other, otherCut, yields⟩
    exact yields.interpolate_eq otherCut

/-- A value is not cut again, and a name reaches from its opening to the nearest brace. -/
example :
    Environment.interpolate [("A", "$\x7bB\x7d"), ("B$\x7bA", "b")]
        "$$\x7bA\x7d$\x7bB$\x7bA\x7d\x7d".toList =
      .ok "$$\x7bB\x7db\x7d".toList := by
  decide +kernel

/-- The first name that is not set to a text is the error, also where an opening is not closed. -/
example :
    Environment.interpolate [("A", "a"), ("C", .undecodable)]
        "$\x7bA\x7d$\x7bC\x7d$\x7bD\x7d$\x7bA".toList =
      .error (.unsetVariable "C") := by
  decide +kernel

end IntentPolicy
