import PromptTemplate.Proofs.Block.Scope
import PromptTemplate.Proofs.Render.Walk
import PromptTemplate.Proofs.Tag.Names
/-!
# What a template mentions

Of everything that a render can read, a template mentions some: the texts, secrets and job data
that its tags name, the memories, the clock, its pipes, and the loop variables that no for-block
around them binds (`mentions`). A render depends on nothing else: in two environments that agree on
what is mentioned it is the same run, with the same entries and the same text or failure
(`renderTokens_eq_of_agree`).

The invariant of a run is that two environments agree on all that is still to come, on the free
variables by assumption and on the bound ones because their loops have bound them alike.
-/

namespace PromptTemplate

open Text (cut?)

/-- Something that a template can speak of and that is not part of it. -/
inductive Mention where
  | dictionaryKey (key : String)
  | secret (name : String)
  | result
  | message
  | sender
  | memories
  | clock
  | pipe (name : String)
  | loopVar (name : String)
  deriving Repr, DecidableEq

/-- All that a render depends on besides its tokens. -/
structure Environment where
  engine : Engine
  context : Context

/-- The environment with a loop variable bound anew. -/
def Environment.bind (env : Environment) (name : String) (item : LoopValue) : Environment :=
  { env with context := env.context.withVars (env.context.loopVars.insert name item) }

/-- The two environments have the same of what is mentioned. -/
def Mention.Agrees (a b : Environment) : Mention → Prop
  | dictionaryKey key =>
    a.context.dictionary.get? customSection key = b.context.dictionary.get? customSection key
  | secret name => (a.context.secrets.get? name).map Secret.matchUrl =
      (b.context.secrets.get? name).map Secret.matchUrl
  | result => a.context.result = b.context.result
  | message => a.context.message = b.context.message
  | sender => a.context.sender = b.context.sender
  | memories => a.context.memories = b.context.memories
  | clock => a.engine.clock = b.engine.clock
  | pipe name => a.engine.pipes.get? name = b.engine.pipes.get? name
  | loopVar name => a.context.loopVars.get? name = b.context.loopVars.get? name

/-- No loop variable of the scope is what is mentioned. -/
def Mention.IsFree (bound : List String) : Mention → Prop
  | loopVar name => name ∉ bound
  | _ => True

instance (bound : List String) : DecidablePred (Mention.IsFree bound) := fun m => by
  cases m <;> unfold Mention.IsFree <;> infer_instance

/-- What a built-in tag mentions. -/
def Builtin.mentions (params : Params) : Builtin → List Mention
  | date | datetime => .clock :: (offsetVars params).map .loopVar
  | datetimeiso => [.clock]
  | result => [.result]
  | message => [.message]
  | sender => [.sender]
  | memory => [.memories]

/-- What a tag mentions by its name. -/
def Reference.mentions (params : Params) : Reference → List Mention
  | loopField variableName _ => [.loopVar variableName]
  | proxy secret => [.secret secret]
  | custom key => [.dictionaryKey key]
  | builtin tag => tag.mentions params
  | loopVar variableName => [.loopVar variableName]

/-- What a tag mentions. -/
def Tag.mentions (tag : Tag) : List Mention :=
  (Reference.ofName tag.name).mentions tag.params ++ (tag.pipe.map .pipe).toList

/-- What a token mentions. -/
def Token.mentions : Token → List Mention
  | literal _ => []
  | tag t => t.mentions
  | forStart header => if header.iterable = .collection "memories" then [.memories] else []
  | forEnd => []

/-- What tokens in a scope mention, apart from the scope. -/
def mentionsIn (bound : List String) (tokens : List Token) : List Mention :=
  (withScopes bound tokens).flatMap fun e => e.2.mentions.filter (·.IsFree e.1)

/-- What a template mentions. -/
def mentions (tokens : List Token) : List Mention := mentionsIn [] tokens

/-! ## Agreement -/

/-- Binding a loop variable alike takes no agreement away. -/
theorem Mention.Agrees.bind {m : Mention} {a b : Environment} (h : m.Agrees a b) (name : String)
    (item : LoopValue) : m.Agrees (a.bind name item) (b.bind name item) := by
  cases m with
  | loopVar other =>
    show (a.context.loopVars.insert name item).get? other =
      (b.context.loopVars.insert name item).get? other
    rw [Table.get?_insert, Table.get?_insert, show a.context.loopVars.get? other = _ from h]
  | dictionaryKey key => exact h
  | secret name => exact h
  | result => exact h
  | message => exact h
  | sender => exact h
  | memories => exact h
  | clock => exact h
  | pipe name => exact h

theorem Environment.agrees_bind_self (a b : Environment) (name : String) (item : LoopValue) :
    (Mention.loopVar name).Agrees (a.bind name item) (b.bind name item) := by
  show (a.context.loopVars.insert name item).get? name =
    (b.context.loopVars.insert name item).get? name
  rw [Table.get?_insert_self, Table.get?_insert_self]

theorem mem_mentionsIn_iff {bound : List String} {tokens : List Token} {m : Mention} :
    m ∈ mentionsIn bound tokens ↔
      ∃ e ∈ withScopes bound tokens, m ∈ e.2.mentions ∧ m.IsFree e.1 := by
  rw [mentionsIn, List.mem_flatMap]
  simp only [List.mem_filter, decide_eq_true_eq]

/-- The environments agree on all that the tokens mention, and on the scope that they are in. -/
structure AgreeIn (bound : List String) (tokens : List Token) (a b : Environment) : Prop where
  mentioned : ∀ m ∈ mentionsIn bound tokens, m.Agrees a b
  bound : ∀ name ∈ bound, (Mention.loopVar name).Agrees a b

namespace AgreeIn

variable {bound : List String} {a b : Environment}

theorem of_subset {tokens piece : List Token} (h : AgreeIn bound tokens a b)
    (hsub : withScopes bound piece ⊆ withScopes bound tokens) : AgreeIn bound piece a b := by
  refine ⟨fun m hm => h.mentioned m ?_, h.bound⟩
  obtain ⟨e, he, hmention⟩ := mem_mentionsIn_iff.1 hm
  exact mem_mentionsIn_iff.2 ⟨e, hsub he, hmention⟩

/-- What the first token mentions is free or bound by the scope. -/
theorem head {token : Token} {rest : List Token} (h : AgreeIn bound (token :: rest) a b) :
    ∀ m ∈ token.mentions, m.Agrees a b := by
  intro m hm
  by_cases hfree : m.IsFree bound
  · exact h.mentioned m (mem_mentionsIn_iff.2 ⟨(bound, token), List.mem_cons_self, hm, hfree⟩)
  · cases m with
    | loopVar name => exact h.bound name (Decidable.not_not.1 hfree)
    | dictionaryKey key => exact absurd trivial hfree
    | secret name => exact absurd trivial hfree
    | result => exact absurd trivial hfree
    | message => exact absurd trivial hfree
    | sender => exact absurd trivial hfree
    | memories => exact absurd trivial hfree
    | clock => exact absurd trivial hfree
    | pipe name => exact absurd trivial hfree

/-- Behind a token that binds and unbinds nothing. -/
theorem tail {token : Token} {rest : List Token} (h : AgreeIn bound (token :: rest) a b)
    (hscope : token.scopeBehind bound = bound) : AgreeIn bound rest a b := by
  refine h.of_subset ?_
  rw [withScopes, hscope]
  exact List.subset_cons_self _ _

section

variable {header : ForHeader} {inside behind : List Token} (hinside : Balanced inside)
  (h : AgreeIn bound (.forStart header :: (inside ++ .forEnd :: behind)) a b)

include hinside h

theorem after : AgreeIn bound behind a b := by
  refine h.of_subset ?_
  rw [withScopes_loop hinside]
  intro e he
  exact List.mem_cons_of_mem _ (List.mem_append_right _ (List.mem_cons_of_mem _ he))

/-- With an item bound alike the environments agree on the body. -/
theorem body (item : LoopValue) :
    AgreeIn (header.var :: bound) inside (a.bind header.var item) (b.bind header.var item) := by
  constructor
  · intro m hm
    obtain ⟨e, he, hmention⟩ := mem_mentionsIn_iff.1 hm
    refine (h.mentioned m (mem_mentionsIn_iff.2 ⟨e, ?_, hmention⟩)).bind _ _
    rw [withScopes_loop hinside]
    exact List.mem_cons_of_mem _ (List.mem_append_left _ he)
  · intro name hname
    rcases List.mem_cons.1 hname with rfl | hname
    · exact Environment.agrees_bind_self a b header.var item
    · exact (h.bound name hname).bind _ _

end

end AgreeIn

/-! ## Tags -/

section

variable {a b : Environment}

theorem interpolate_eq {value : String} {vars vars' : LoopVars}
    (h : ∀ name ∈ before? '"' value, vars.get? name = vars'.get? name) :
    interpolate value vars = interpolate value vars' := by
  unfold interpolate
  cases hcut : cut? ['"'] value.toList with
  | none => rfl
  | some cut =>
    obtain ⟨name, suffix⟩ := cut
    have hget := h (String.ofList name) (by simp [before?, hcut])
    dsimp only
    rw [hget]

theorem paramDuration_eq {key : String} {params : Params} {vars vars' : LoopVars}
    (h : ∀ name ∈ (params.get? key).bind (before? '"'), vars.get? name = vars'.get? name) :
    paramDuration key params vars = paramDuration key params vars' := by
  unfold paramDuration
  cases hget : params.get? key with
  | none => rfl
  | some value =>
    dsimp only
    rw [interpolate_eq fun name hname => h name (by rwa [hget])]

theorem dateOffset_eq {params : Params} {vars vars' : LoopVars}
    (h : ∀ name ∈ offsetVars params, vars.get? name = vars'.get? name) :
    dateOffset params vars = dateOffset params vars' := by
  unfold dateOffset
  rw [paramDuration_eq fun name hname => h name (by simp_all [offsetVars]),
    paramDuration_eq fun name hname => h name (by simp_all [offsetVars])]

theorem movedInstant_eq {params : Params}
    (h : ∀ m ∈ Builtin.mentions params .date, m.Agrees a b) :
    movedInstant params a.context.loopVars a.engine.clock =
      movedInstant params b.context.loopVars b.engine.clock := by
  have hclock : a.engine.clock = b.engine.clock := h .clock List.mem_cons_self
  have hoffset := dateOffset_eq fun name hname =>
    h (.loopVar name) (List.mem_cons_of_mem _ (List.mem_map_of_mem hname))
  unfold movedInstant
  rw [hclock, hoffset]

theorem resolveBuiltin_eq {tag : Builtin} {params : Params}
    (h : ∀ m ∈ tag.mentions params, m.Agrees a b) :
    resolveBuiltin tag params a.context a.engine.clock =
      resolveBuiltin tag params b.context b.engine.clock := by
  unfold resolveBuiltin
  cases tag with
  | date =>
    have hclock : a.engine.clock = b.engine.clock := h .clock List.mem_cons_self
    dsimp only
    rw [movedInstant_eq h, hclock]
  | datetime =>
    have hclock : a.engine.clock = b.engine.clock := h .clock List.mem_cons_self
    dsimp only
    rw [movedInstant_eq h, hclock]
  | datetimeiso =>
    have hclock : a.engine.clock = b.engine.clock := h .clock List.mem_cons_self
    dsimp only
    rw [hclock]
  | result =>
    have hresult : a.context.result = b.context.result := h .result List.mem_cons_self
    dsimp only
    rw [hresult]
  | message =>
    have hmessage : a.context.message = b.context.message := h .message List.mem_cons_self
    dsimp only
    rw [hmessage]
  | sender =>
    have hsender : a.context.sender = b.context.sender := h .sender List.mem_cons_self
    dsimp only
    rw [hsender]
  | memory =>
    have hmemories : a.context.memories = b.context.memories := h .memories List.mem_cons_self
    dsimp only
    rw [hmemories]

/-- A tag has the same text where there is the same of all that its name mentions. -/
theorem resolveTag_eq {tag : Tag}
    (h : ∀ m ∈ (Reference.ofName tag.name).mentions tag.params, m.Agrees a b) :
    resolveTag tag a.context a.engine.clock = resolveTag tag b.context b.engine.clock := by
  unfold resolveTag
  cases href : Reference.ofName tag.name with
  | loopField variableName field =>
    have hget : a.context.loopVars.get? variableName = b.context.loopVars.get? variableName :=
      h (.loopVar variableName) (by rw [href]; exact List.mem_cons_self)
    unfold resolveField
    dsimp only
    rw [hget]
  | proxy secret =>
    have hurl : (a.context.secrets.get? secret).map Secret.matchUrl =
        (b.context.secrets.get? secret).map Secret.matchUrl :=
      h (.secret secret) (by rw [href]; exact List.mem_cons_self)
    dsimp only
    cases hget : a.context.secrets.get? secret <;>
      cases hget' : b.context.secrets.get? secret <;> simp_all
  | custom key =>
    have hget : a.context.dictionary.get? customSection key =
        b.context.dictionary.get? customSection key :=
      h (.dictionaryKey key) (by rw [href]; exact List.mem_cons_self)
    dsimp only
    rw [hget]
  | builtin builtin =>
    rw [href] at h
    exact resolveBuiltin_eq h
  | loopVar variableName =>
    have hget : a.context.loopVars.get? variableName = b.context.loopVars.get? variableName :=
      h (.loopVar variableName) (by rw [href]; exact List.mem_cons_self)
    dsimp only
    rw [hget]

theorem renderTag_eq {tag : Tag} (h : ∀ m ∈ tag.mentions, m.Agrees a b) :
    renderTag a.engine a.context tag = renderTag b.engine b.context tag := by
  unfold renderTag
  rw [resolveTag_eq fun m hm => h m (List.mem_append_left _ hm)]
  cases hpipe : tag.pipe with
  | none => rfl
  | some name =>
    have hget : a.engine.pipes.get? name = b.engine.pipes.get? name :=
      h (.pipe name) (List.mem_append_right _ (by simp [hpipe]))
    have happly : a.engine.pipes.apply name = b.engine.pipes.apply name := by
      funext text
      unfold Pipes.apply
      rw [hget]
    dsimp only
    rw [happly]

/-! ## Loops -/

theorem LoopItems.ofHeader_eq {header : ForHeader}
    (h : ∀ m ∈ (Token.forStart header).mentions, m.Agrees a b) :
    ofHeader header a.context = ofHeader header b.context := by
  unfold ofHeader
  cases hiterable : header.iterable with
  | range first last => rfl
  | collection name =>
    dsimp only
    split
    · next hname =>
      have hmemories : a.context.memories = b.context.memories := by
        refine h .memories ?_
        rw [Token.mentions, if_pos (by rw [hiterable, hname])]
        exact List.mem_cons_self
      rw [hmemories]
    · rfl

end

theorem renderLoop_congr {context context' : Context} {header : ForHeader}
    {body body' : Context → Logged Utf16}
    (hitems : LoopItems.ofHeader header context = LoopItems.ofHeader header context')
    (hbody : ∀ item, body (context.withVars (context.loopVars.insert header.var item)) =
      body' (context'.withVars (context'.loopVars.insert header.var item))) :
    renderLoop context header body = renderLoop context' header body' := by
  unfold renderLoop
  simp only [hitems, hbody]

/-! ## Templates -/

/-- The induction goes by the tree of the list, each body in the scope of its block. -/
theorem AgreeIn.renderTokens_eq {bound : List String} {tokens : List Token} {a b : Environment}
    (h : AgreeIn bound tokens a b) :
    renderTokens a.engine a.context tokens = renderTokens b.engine b.context tokens := by
  induction tokens using Block.ofTokens?.induct generalizing bound a b with
  | case1 => rw [renderTokens_nil, renderTokens_nil]
  | case2 text rest ih =>
    rw [renderTokens_literal, renderTokens_literal, ih (h.tail rfl)]
  | case3 tag rest ih =>
    rw [renderTokens_tag, renderTokens_tag, renderTag_eq h.head, ih (h.tail rfl)]
  | case4 rest => rw [renderTokens_forEnd, renderTokens_forEnd]
  | case5 header rest hcut =>
    rw [renderTokens_unclosed _ _ header hcut, renderTokens_unclosed _ _ header hcut]
  | case6 header rest body after hcut ihbody ihafter =>
    obtain ⟨rfl, hbalanced⟩ := cutBody?_eq_some_iff.1 hcut
    have hloop : renderLoop a.context header (fun inner => renderTokens a.engine inner body) =
        renderLoop b.context header fun inner => renderTokens b.engine inner body :=
      renderLoop_congr (LoopItems.ofHeader_eq h.head) fun item => ihbody (h.body hbalanced item)
    rw [renderTokens_forStart _ _ header hcut, renderTokens_forStart _ _ header hcut, hloop,
      ihafter (h.after hbalanced)]

/-- **Mentions.** A render depends only on what its template mentions: where two environments agree
on that, they give the same run. -/
theorem renderTokens_eq_of_agree (tokens : List Token) {a b : Environment}
    (h : ∀ m ∈ mentions tokens, m.Agrees a b) :
    renderTokens a.engine a.context tokens = renderTokens b.engine b.context tokens := by
  have hagree : AgreeIn [] tokens a b := ⟨h, fun _ hname => absurd hname List.not_mem_nil⟩
  exact hagree.renderTokens_eq

/-- A loop over the memories with a loop inside, and behind them tags that look things up. -/
def lookupTokens : List Token :=
  [.forStart ⟨"m", .collection "memories", Table.empty⟩, .tag ⟨"m.result", Table.empty, none⟩,
    .forStart ⟨"d", .range 1 2, Table.empty⟩,
    .tag ⟨"date", Table.ofList [("minus", "d\"d\"")], none⟩, .forEnd, .forEnd,
    .tag ⟨"custom:k", Table.empty, some "summary"⟩, .tag ⟨"proxy:s", Table.empty, none⟩,
    .tag ⟨"x", Table.empty, none⟩]

/-- An environment with a text at many places that those tokens do not mention. -/
def environmentWith (text : Utf16) : Environment where
  engine := ⟨Pipes.default.insert "other" fun _ => .ok text, ⟨0, Zone.utc⟩⟩
  context :=
    { dictionary := (Dictionary.empty.set customSection "k" "v").set customSection "other" text
      secrets := Table.ofList [("s", ⟨text, text, "u"⟩), ("other", ⟨text, text, text⟩)]
      result := some text
      message := some text
      sender := some text
      memories := [⟨"2026-01-02", "2026-01-02 03:04", "r"⟩]
      loopVars := Table.ofList [("x", .index 5), ("m", .memory ⟨text, text, text⟩)] }

theorem renderTokens_lookupTokens :
    let a := environmentWith "a"
    let b := environmentWith "b"
    mentions lookupTokens = [.memories, .clock, .dictionaryKey "k", .pipe "summary", .secret "s",
      .loopVar "x"] ∧
    (∀ m ∈ mentions lookupTokens, m.Agrees a b) ∧
    renderTokens a.engine a.context lookupTokens = renderTokens b.engine b.context lookupTokens ∧
    (renderTokens a.engine a.context lookupTokens).result.toOption =
      some ("r1969-12-311969-12-30Summary of: vu5" : Utf16) := by
  intro a b
  have hmentions : mentions lookupTokens = [.memories, .clock, .dictionaryKey "k",
      .pipe "summary", .secret "s", .loopVar "x"] := by decide +kernel
  have hagree : ∀ m ∈ mentions lookupTokens, m.Agrees a b := by
    rw [hmentions]
    simp only [List.forall_mem_cons]
    refine ⟨rfl, rfl, ?_, rfl, ?_, rfl, fun m hm => absurd hm List.not_mem_nil⟩
    · show a.context.dictionary.get? customSection "k" = b.context.dictionary.get? customSection "k"
      decide +kernel
    · show (a.context.secrets.get? "s").map Secret.matchUrl =
        (b.context.secrets.get? "s").map Secret.matchUrl
      decide +kernel
  exact ⟨hmentions, hagree, renderTokens_eq_of_agree lookupTokens hagree, by decide +kernel⟩

end PromptTemplate
