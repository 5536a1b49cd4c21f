/-
A mapper that fails at first, over the requests of a whole session.

A request tries its source a limited number of times, but a mapper that fails at first
counts its calls from the beginning of the session. So how a request ends depends on all
supported requests before it, and on nothing else: requests for an unknown extension and
clearings do not reach the mapper.

Between two requests only the number of calls matters. `Generator.generate_of_le` and
`Generator.generate_of_lt` say what one request does to it, the first while the failures
outlast the patience of the request and the second when they do not. Over a session the
count is `callsAfter`, which is kept by every step (`SessionRun.calls_eq`), and the answers
to all requests are read off from it.
-/
import SourceOutline.Proofs.Generation
import SourceOutline.Session

set_option autoImplicit false

namespace SourceOutline

variable {σ : Type}

/-! ## Failing at first -/

/-- A mapper whose first calls fail, where `calls` tells from the memory how many there
were. The call with the number `n`, counted from zero, fails with `error n`. -/
structure Mapper.FailsAtFirst (mapper : Mapper σ) (calls : σ → Nat) (failures : Nat)
    (error : Nat → MapError) : Prop where
  fails : ∀ text options memory, calls memory < failures →
    ∃ memory', mapper.map text options memory = (.error (error (calls memory)), memory')
      ∧ calls memory' = calls memory + 1
  succeeds : ∀ text options memory, failures ≤ calls memory →
    ∃ mapping memory', mapper.map text options memory = (.ok mapping, memory')
      ∧ calls memory' = calls memory + 1

/-- A factory of such mappers, which share one count. It may refuse languages that it does
not serve. -/
def MapperFactory.FailsAtFirst (factory : MapperFactory σ) (serves : Language → Prop)
    (calls : σ → Nat) (failures : Nat) (error : Nat → MapError) : Prop :=
  ∀ language memory, serves language →
    ∃ mapper memory', factory language memory = (.ok mapper, memory')
      ∧ calls memory' = calls memory ∧ mapper.FailsAtFirst calls failures error

namespace Generator

variable {generator : Generator σ} {serves : Language → Prop} {calls : σ → Nat}
  {failures : Nat} {error : Nat → MapError}

/-! ## One attempt -/

theorem callMapper_of_lt (h : generator.factory.FailsAtFirst serves calls failures error)
    {language : Language} (hserves : serves language) (text : String) (options : MapOptions)
    {memory : σ} (hlt : calls memory < failures) :
    ∃ memory', generator.callMapper language text options memory
        = (.error (.map (error (calls memory))), memory')
      ∧ calls memory' = calls memory + 1 := by
  obtain ⟨mapper, supplied, hfactory, hcalls, hmapper⟩ := h language memory hserves
  rw [← hcalls] at hlt ⊢
  obtain ⟨memory', hmap, hcounted⟩ := hmapper.fails text options supplied hlt
  refine ⟨memory', ?_, hcounted⟩
  rw [callMapper, hfactory]
  dsimp only
  rw [hmap]

theorem callMapper_of_le (h : generator.factory.FailsAtFirst serves calls failures error)
    {language : Language} (hserves : serves language) (text : String) (options : MapOptions)
    {memory : σ} (hle : failures ≤ calls memory) :
    ∃ mapper mapping memory', generator.callMapper language text options memory
        = (.ok (mapper, mapping), memory')
      ∧ calls memory' = calls memory + 1 := by
  obtain ⟨mapper, supplied, hfactory, hcalls, hmapper⟩ := h language memory hserves
  rw [← hcalls] at hle ⊢
  obtain ⟨mapping, memory', hmap, hcounted⟩ := hmapper.succeeds text options supplied hle
  refine ⟨mapper, mapping, memory', ?_, hcounted⟩
  rw [callMapper, hfactory]
  dsimp only
  rw [hmap]

/-- No mapper is called to drop bookmarks. -/
theorem purge_memory (source : Source) (ids : List String) (world : World σ) :
    (purge source ids world).memory = world.memory := by
  rw [purge]
  cases source.fileKey? with
  | none => rfl
  | some key => rfl

/-- An attempt before the failures are used up is one of them. -/
theorem attempt_of_lt (h : generator.factory.FailsAtFirst serves calls failures error)
    {source : Source} {language : Language} (hserves : serves language) (options : Options)
    {world : World σ} {text : String} (hread : source.read world.disk = .ok text)
    (hlt : calls world.memory < failures) :
    ∃ memory, generator.attempt source language options world
        = (.error (.map (error (calls world.memory))), { world with memory := memory })
      ∧ calls memory = calls world.memory + 1 := by
  obtain ⟨memory, hcall, hcalls⟩ :=
    callMapper_of_lt h hserves text (mapOptions source options) hlt
  refine ⟨memory, ?_, hcalls⟩
  rw [attempt, hread]
  dsimp only
  rw [hcall]

/-- After that an attempt is complete. -/
theorem attempt_of_le (h : generator.factory.FailsAtFirst serves calls failures error)
    {source : Source} {language : Language} (hserves : serves language) (options : Options)
    {world : World σ} {text : String} (hread : source.read world.disk = .ok text)
    (hle : failures ≤ calls world.memory) :
    ∃ outline after, generator.attempt source language options world = (.ok outline, after)
      ∧ calls after.memory = calls world.memory + 1 := by
  obtain ⟨mapper, mapping, memory, hcall, hcalls⟩ :=
    callMapper_of_le h hserves text (mapOptions source options) hle
  rw [attempt, hread]
  dsimp only
  rw [hcall]
  refine ⟨_, _, rfl, ?_⟩
  rw [purge_memory]
  exact hcalls

/-! ## One request -/

/-- As long as the failures outlast the attempts, all attempts fail, and the message is that
of the last. -/
theorem retry_of_le (h : generator.factory.FailsAtFirst serves calls failures error)
    {source : Source} {language : Language} (hserves : serves language) (options : Options)
    {world : World σ} {text : String} (hread : source.read world.disk = .ok text)
    (message : String) (made left : Nat) (hle : calls world.memory + (left + 1) ≤ failures) :
    ∃ memory, generator.retry source language options message made (left + 1) world
        = (.failed (error (calls world.memory + left)).message (made + left + 1),
          { world with memory := memory })
      ∧ calls memory = calls world.memory + (left + 1) := by
  induction left generalizing made message world with
  | zero =>
    obtain ⟨memory, hattempt, hcalls⟩ := attempt_of_lt h hserves options hread (by omega)
    refine ⟨memory, ?_, hcalls⟩
    rw [retry, hattempt]
    rfl
  | succ left ih =>
    obtain ⟨memory, hattempt, hcalls⟩ := attempt_of_lt h hserves options hread (by omega)
    -- A failed attempt leaves the disk alone, so the source is still there.
    have hread' : source.read { world with memory := memory }.disk = .ok text := hread
    have hle' : calls { world with memory := memory }.memory + (left + 1) ≤ failures := by
      dsimp only
      omega
    obtain ⟨memory', hretry, hcalls'⟩ :=
      ih hread' (AttemptError.message (.map (error (calls world.memory)))) (made + 1) hle'
    dsimp only at hretry hcalls'
    have hlast : calls memory + left = calls world.memory + (left + 1) := by omega
    have hmade : made + 1 + left + 1 = made + (left + 1) + 1 := by omega
    rw [hlast, hmade] at hretry
    refine ⟨memory', ?_, by omega⟩
    rw [retry, hattempt]
    exact hretry

/-- Otherwise the first attempt behind the failures succeeds. -/
theorem retry_of_lt (h : generator.factory.FailsAtFirst serves calls failures error)
    {source : Source} {language : Language} (hserves : serves language) (options : Options)
    {world : World σ} {text : String} (hread : source.read world.disk = .ok text)
    (message : String) (made : Nat) {left : Nat} (hleft : 0 < left)
    (hlt : failures < calls world.memory + left) :
    ∃ outline after, generator.retry source language options message made left world
        = (.ready outline, after)
      ∧ outline.attempts = made + (failures - calls world.memory) + 1
      ∧ calls after.memory = max (calls world.memory) failures + 1 := by
  induction left generalizing made message world with
  | zero => omega
  | succ left ih =>
    by_cases hfails : calls world.memory < failures
    · obtain ⟨memory, hattempt, hcalls⟩ := attempt_of_lt h hserves options hread hfails
      have hread' : source.read { world with memory := memory }.disk = .ok text := hread
      have hlt' : failures < calls { world with memory := memory }.memory + left := by
        dsimp only
        omega
      obtain ⟨outline, after, hretry, hattempts, hcalls'⟩ :=
        ih hread' (AttemptError.message (.map (error (calls world.memory)))) (made + 1)
          (by omega) hlt'
      dsimp only at hattempts hcalls'
      refine ⟨outline, after, ?_, by omega, by omega⟩
      rw [retry, hattempt]
      exact hretry
    · obtain ⟨outline, after, hattempt, hcalls⟩ :=
        attempt_of_le h hserves options hread (Nat.le_of_not_lt hfails)
      refine ⟨{ outline with attempts := made + 1 }, after, ?_, ?_, by omega⟩
      · rw [retry, hattempt]
      · dsimp only
        omega

/-- How often a source is tried: as often as the generator says, and at least once. -/
def limit (generator : Generator σ) : Nat := max generator.maxAttempts 1

theorem limit_pos (generator : Generator σ) : 0 < generator.limit :=
  Nat.lt_of_lt_of_le Nat.zero_lt_one (Nat.le_max_right _ _)

/-- **A request that the failures outlast** fails, and uses as many of them as it may. -/
theorem generate_of_le (h : generator.factory.FailsAtFirst serves calls failures error)
    {source : Source} {language : Language}
    (hlanguage : generator.registry.resolve source.extension = some language)
    (hserves : serves language) (options : Options) {world : World σ} {text : String}
    (hread : source.read world.disk = .ok text)
    (hle : calls world.memory + generator.limit ≤ failures) :
    ∃ memory, generator.generate source options world
        = (.failed (error (calls world.memory + generator.limit - 1)).message generator.limit,
          { world with memory := memory })
      ∧ calls memory = calls world.memory + generator.limit := by
  obtain ⟨left, hleft⟩ := Nat.exists_eq_add_one.2 generator.limit_pos
  rw [hleft] at hle
  obtain ⟨memory, hretry, hcalls⟩ := retry_of_le h hserves options hread "" 0 left hle
  rw [hleft]
  refine ⟨memory, ?_, hcalls⟩
  rw [generate, hlanguage]
  dsimp only
  rw [← limit, hleft, hretry, Nat.zero_add]
  rfl

/-- **A request that outlasts the failures** is answered at the first attempt behind them. -/
theorem generate_of_lt (h : generator.factory.FailsAtFirst serves calls failures error)
    {source : Source} {language : Language}
    (hlanguage : generator.registry.resolve source.extension = some language)
    (hserves : serves language) (options : Options) {world : World σ} {text : String}
    (hread : source.read world.disk = .ok text)
    (hlt : failures < calls world.memory + generator.limit) :
    ∃ outline after, generator.generate source options world = (.ready outline, after)
      ∧ outline.attempts = failures - calls world.memory + 1
      ∧ calls after.memory = max (calls world.memory) failures + 1 := by
  obtain ⟨outline, after, hretry, hattempts, hcalls⟩ :=
    retry_of_lt h hserves options hread "" 0 generator.limit_pos hlt
  rw [Nat.zero_add] at hattempts
  refine ⟨outline, after, ?_, hattempts, hcalls⟩
  rw [generate, hlanguage]
  exact hretry

end Generator

/-! ## Counting over a session -/

/-- How often the mapper was called when so many supported requests are answered: as often
as allowed in each of them, and once the failures are used up, once in each. -/
def callsAfter (limit failures number : Nat) : Nat :=
  if number * limit ≤ failures then number * limit else failures + (number - failures / limit)

section Counting

variable {limit failures number : Nat}

theorem callsAfter_zero : callsAfter limit failures 0 = 0 := by
  rw [callsAfter, Nat.zero_mul, if_pos (Nat.zero_le _)]

/-- Before a request that fails all earlier ones have failed. -/
theorem callsAfter_of_succ_le (h : (number + 1) * limit ≤ failures) :
    callsAfter limit failures number + limit = (number + 1) * limit := by
  rw [Nat.succ_mul] at h ⊢
  rw [callsAfter, if_pos (by omega)]

/-- What the count says of a request that succeeds: there are few enough failures left, it
is answered at once if an earlier one succeeded, and otherwise after the rest of the
failures. -/
theorem callsAfter_of_lt_succ (hlimit : 0 < limit) (h : failures < (number + 1) * limit) :
    failures < callsAfter limit failures number + limit
      ∧ failures - callsAfter limit failures number
        = (if number = failures / limit then failures % limit else 0)
      ∧ max (callsAfter limit failures number) failures + 1
        = callsAfter limit failures (number + 1) := by
  have hafter : callsAfter limit failures (number + 1)
      = failures + (number + 1 - failures / limit) := if_neg (Nat.not_le.2 h)
  by_cases hfirst : number * limit ≤ failures
  · have hdiv : failures / limit = number := Nat.div_eq_of_lt_le hfirst h
    have hmod := Nat.div_add_mod failures limit
    have hbefore : callsAfter limit failures number = number * limit := if_pos hfirst
    rw [hdiv, Nat.mul_comm] at hmod
    rw [Nat.succ_mul] at h
    rw [hafter, hbefore, hdiv, if_pos rfl]
    refine ⟨h, by omega, by omega⟩
  · have hdiv : failures / limit < number :=
      (Nat.div_lt_iff_lt_mul hlimit).2 (Nat.lt_of_not_le hfirst)
    have hbefore : callsAfter limit failures number = failures + (number - failures / limit) :=
      if_neg hfirst
    rw [hafter, hbefore, if_neg (by omega)]
    refine ⟨by omega, by omega, by omega⟩

end Counting

/-! ## Sessions -/

/-- What is asked of a viewer. -/
inductive Request where
  | refresh (source : Source) (options : Options)
  | clear

namespace Request

/-- What comes of a request: an answer if it is a refresh, the state of the viewer, and the
world. -/
def perform (generator : Generator σ) (world : World σ) :
    Request → Option Outcome × Session × World σ
  | refresh source options =>
    let (outcome, session, world) := Session.refresh generator source options world
    (some outcome, session, world)
  | clear => (none, .cleared, world)

/-- Whether a request is a refresh with a known extension. -/
def isSupported (generator : Generator σ) : Request → Bool
  | refresh source _ => (generator.registry.resolve source.extension).isSome
  | clear => false

/-- A source with a known extension has a language that is served, and can be read. -/
def Allowed (generator : Generator σ) (serves : Language → Prop) (world : World σ) :
    Request → Prop
  | refresh source _ => ∀ language, generator.registry.resolve source.extension = some language →
      serves language ∧ ∃ text, source.read world.disk = .ok text
  | clear => True

end Request

/-- The runs of a session, with the number of supported requests so far. Files and bookmarks
may be changed by others between two requests. -/
inductive SessionRun (generator : Generator σ) (serves : Language → Prop) (start : World σ) :
    Nat → Session → World σ → Prop where
  | opened : SessionRun generator serves start 0 {} start
  | requested {number : Nat} {session : Session} {world : World σ}
      (earlier : SessionRun generator serves start number session world) (request : Request)
      (allowed : request.Allowed generator serves world) :
      SessionRun generator serves start (number + (request.isSupported generator).toNat)
        (request.perform generator world).2.1 (request.perform generator world).2.2
  | meanwhile {number : Nat} {session : Session} {world : World σ}
      (earlier : SessionRun generator serves start number session world) (disk : FileTree)
      (store : Store) :
      SessionRun generator serves start number session { world with disk := disk, store := store }

/-- How the supported request with a number, counted from one, is answered, and what the
viewer shows then. -/
structure Reported (limit failures : Nat) (error : Nat → MapError) (number : Nat)
    (outcome : Outcome) (session : Session) : Prop where
  failed_iff : (∃ message, outcome = .failed message limit) ↔ number * limit ≤ failures
  ready_iff : (∃ outline, outcome = .ready outline) ↔ failures / limit + 1 ≤ number
  of_failed : ∀ message attempts, outcome = .failed message attempts →
    attempts = limit ∧ message = (error (number * limit - 1)).message
      ∧ session = { items := [], errorMessage := some message }
  of_ready : ∀ outline, outcome = .ready outline →
    outline.attempts = (if number = failures / limit + 1 then failures % limit + 1 else 1)
      ∧ session = { items := outline.items, errorMessage := none }

section Reports

variable {limit failures number : Nat} {error : Nat → MapError}

/-- The requests that succeed by their numbers are those that do not fail by them. -/
theorem div_succ_le_iff_lt_mul (hlimit : 0 < limit) :
    failures / limit + 1 ≤ number ↔ failures < number * limit := by
  rw [Nat.succ_le_iff, Nat.div_lt_iff_lt_mul hlimit]

theorem Reported.of_le (hlimit : 0 < limit) (hle : number * limit ≤ failures) :
    Reported limit failures error number
      (.failed (error (number * limit - 1)).message limit)
      { items := [], errorMessage := some (error (number * limit - 1)).message } := by
  refine ⟨⟨fun _ => hle, fun _ => ⟨_, rfl⟩⟩, ?_, ?_, ?_⟩
  · rw [div_succ_le_iff_lt_mul hlimit]
    refine ⟨?_, fun hlt => absurd hle (Nat.not_le.2 hlt)⟩
    rintro ⟨outline, houtline⟩
    cases houtline
  · rintro message attempts hfailed
    cases hfailed
    exact ⟨rfl, rfl, rfl⟩
  · rintro outline houtline
    cases houtline

theorem Reported.of_lt (hlimit : 0 < limit) (hlt : failures < number * limit) {outline : Outline}
    (hattempts : outline.attempts
      = if number = failures / limit + 1 then failures % limit + 1 else 1) :
    Reported limit failures error number (.ready outline)
      { items := outline.items, errorMessage := none } := by
  refine ⟨⟨?_, fun hle => absurd hle (Nat.not_le.2 hlt)⟩, ?_, ?_, ?_⟩
  · rintro ⟨message, hmessage⟩
    cases hmessage
  · rw [div_succ_le_iff_lt_mul hlimit]
    exact ⟨fun _ => hlt, fun _ => ⟨outline, rfl⟩⟩
  · rintro message attempts hfailed
    cases hfailed
  · rintro same hsame
    cases hsame
    exact ⟨hattempts, rfl⟩

end Reports

section

variable {generator : Generator σ} {serves : Language → Prop} {calls : σ → Nat}
  {failures : Nat} {error : Nat → MapError}

/-- **One supported request**, when the count is right before it: the answer is the one for
its number, and the count is right after it. -/
theorem Session.refresh_reported
    (h : generator.factory.FailsAtFirst serves calls failures error) {source : Source}
    {language : Language}
    (hlanguage : generator.registry.resolve source.extension = some language)
    (hserves : serves language) (options : Options) {world : World σ} {text : String}
    (hread : source.read world.disk = .ok text) {number : Nat}
    (hcalls : calls world.memory = callsAfter generator.limit failures number) :
    ∃ outcome session after, Session.refresh generator source options world
        = (outcome, session, after)
      ∧ Reported generator.limit failures error (number + 1) outcome session
      ∧ calls after.memory = callsAfter generator.limit failures (number + 1) := by
  by_cases hle : (number + 1) * generator.limit ≤ failures
  · have hcount := callsAfter_of_succ_le hle
    obtain ⟨memory, hgenerate, hafter⟩ :=
      Generator.generate_of_le h hlanguage hserves options hread (by omega)
    rw [hcalls, hcount] at hgenerate hafter
    refine ⟨_, _, { world with memory := memory }, ?_, .of_le generator.limit_pos hle, ?_⟩
    · rw [Session.refresh, hgenerate]
      rfl
    · rw [callsAfter, if_pos hle]
      exact hafter
  · have hlt := Nat.lt_of_not_le hle
    obtain ⟨hfew, hrest, hcount⟩ := callsAfter_of_lt_succ generator.limit_pos hlt
    obtain ⟨outline, after, hgenerate, hattempts, hafter⟩ :=
      Generator.generate_of_lt h hlanguage hserves options hread (by omega)
    rw [hcalls, hcount] at hafter
    refine ⟨.ready outline, _, after, ?_, .of_lt generator.limit_pos hlt ?_, hafter⟩
    · rw [Session.refresh, hgenerate]
      rfl
    · rw [hattempts, hcalls, hrest]
      by_cases hfirst : number = failures / generator.limit
      · rw [if_pos hfirst, if_pos (by omega)]
      · rw [if_neg hfirst, if_neg (by omega)]

theorem Session.refresh_of_unknown {source : Source}
    (hlanguage : generator.registry.resolve source.extension = none) (options : Options)
    (world : World σ) :
    Session.refresh generator source options world
      = (.unsupported source.extension,
        { errorMessage := some ("Unsupported file type: ." ++ source.extension) }, world) := by
  rw [Session.refresh, Generator.generate, hlanguage]
  rfl

/-- **One request of any sort**, when the count is right before it. -/
theorem Request.calls_perform
    (h : generator.factory.FailsAtFirst serves calls failures error) {world : World σ}
    {number : Nat} (hcalls : calls world.memory = callsAfter generator.limit failures number)
    (request : Request) (hallowed : request.Allowed generator serves world) :
    calls (request.perform generator world).2.2.memory
      = callsAfter generator.limit failures
        (number + (request.isSupported generator).toNat) := by
  cases request with
  | clear => exact hcalls
  | refresh source options =>
    rw [Request.isSupported, Request.perform]
    cases hlanguage : generator.registry.resolve source.extension with
    | none =>
      rw [Session.refresh_of_unknown hlanguage]
      exact hcalls
    | some language =>
      obtain ⟨hserves, text, hread⟩ := hallowed language hlanguage
      obtain ⟨outcome, session, after, hrefresh, -, hafter⟩ :=
        Session.refresh_reported h hlanguage hserves options hread hcalls
      rw [hrefresh]
      exact hafter

/-- **The count is right all the time.** -/
theorem SessionRun.calls_eq (h : generator.factory.FailsAtFirst serves calls failures error)
    {start : World σ} (hstart : calls start.memory = 0) {number : Nat} {session : Session}
    {world : World σ} (hrun : SessionRun generator serves start number session world) :
    calls world.memory = callsAfter generator.limit failures number := by
  induction hrun with
  | opened => rw [hstart, callsAfter_zero]
  | requested earlier request allowed ih => exact request.calls_perform h ih allowed
  | meanwhile earlier disk store ih => exact ih

end

/-- **Failures are counted over the session and attempts over the request.** At any moment
of a session with a mapper that fails at first, the calls so far are those of the supported
requests so far. The next supported request is answered as its number says. A request for an
unknown extension and a clearing change nothing but what the viewer shows. -/
theorem failures_counted_over_session (generator : Generator σ) (serves : Language → Prop)
    (calls : σ → Nat) (failures : Nat) (error : Nat → MapError)
    (hfactory : generator.factory.FailsAtFirst serves calls failures error)
    (start : World σ) (hstart : calls start.memory = 0) (number : Nat) (session : Session)
    (world : World σ) (hrun : SessionRun generator serves start number session world) :
    calls world.memory = callsAfter generator.limit failures number
    ∧ (∀ source options language text,
      generator.registry.resolve source.extension = some language → serves language →
      source.read world.disk = .ok text →
      ∃ outcome session' after,
        Request.perform generator world (.refresh source options) = (some outcome, session', after)
        ∧ Reported generator.limit failures error (number + 1) outcome session'
        ∧ calls after.memory = callsAfter generator.limit failures (number + 1))
    ∧ (∀ source options, generator.registry.resolve source.extension = none →
      Request.perform generator world (.refresh source options)
        = (some (.unsupported source.extension),
          { items := []
            errorMessage := some ("Unsupported file type: ." ++ source.extension) },
          world))
    ∧ Request.perform generator world .clear
        = (none, { items := [], errorMessage := none }, world) := by
  have hcalls := hrun.calls_eq hfactory hstart
  refine ⟨hcalls, ?_, ?_, rfl⟩
  · intro source options language text hlanguage hserves hread
    obtain ⟨outcome, session', after, hrefresh, hreported, hafter⟩ :=
      Session.refresh_reported hfactory hlanguage hserves options hread hcalls
    rw [Request.perform, hrefresh]
    exact ⟨outcome, session', after, rfl, hreported, hafter⟩
  · intro source options hlanguage
    rw [Request.perform, Session.refresh_of_unknown hlanguage]

/-- A generator for C# to which every source is locked at first, and empty later. -/
def Generator.lockedAtFirst (failures maxAttempts : Nat) : Generator Nat where
  registry := Registry.empty.register "cs" .csharp
  factory := fun language calls =>
    match language with
    | .csharp =>
      (.ok {
        markers := .directive
        encodesContainment := true
        map := fun _ _ calls =>
          (if calls < failures then .error (.parse "file is locked") else .ok {}, calls + 1) },
        calls)
    | _ => (.error (.unsupported language.displayName), calls)
  maxAttempts := maxAttempts
  tokens := fun _ => "token"
  stamp := { timestamp := "" }

theorem Generator.lockedAtFirst_failsAtFirst (failures maxAttempts : Nat) :
    (Generator.lockedAtFirst failures maxAttempts).factory.FailsAtFirst (· = .csharp) id failures
      (fun _ => .parse "file is locked") := by
  rintro language memory rfl
  refine ⟨_, memory, rfl, rfl, ?_, ?_⟩
  · intro text options memory hlt
    exact ⟨memory + 1, by simp [show memory < failures from hlt], rfl⟩
  · intro text options memory hle
    exact ⟨{}, memory + 1, by simp [Nat.not_lt.2 (show failures ≤ memory from hle)], rfl⟩

/-- Four failures and three attempts: the first request fails. Then come one for an unknown
extension and a clearing, and the second supported request succeeds at its second attempt. -/
theorem failures_counted_over_session_of_locked :
    let generator := Generator.lockedAtFirst 4 3
    let source : Source := .text "class Recovered \x7b \x7d" "cs" none
    let start : World Nat := ⟨{ home := "/" }, .inMemory, 0⟩
    (∃ after, Request.perform generator start (.refresh source {})
      = (some (.failed "Failed to parse source code: file is locked" 3),
        { items := [], errorMessage := some "Failed to parse source code: file is locked" },
        after))
    ∧ ∃ session world, SessionRun generator (· = .csharp) start 1 session world
      ∧ ∃ outline after, Request.perform generator world (.refresh source {})
          = (some (.ready outline), { items := outline.items, errorMessage := none }, after)
        ∧ outline.attempts = 2 ∧ after.memory = 5 := by
  intro generator source start
  have hfactory := Generator.lockedAtFirst_failsAtFirst 4 3
  have hknown : generator.registry.resolve source.extension = some .csharp := by decide +kernel
  have hunknown : generator.registry.resolve (Source.text "x" "txt" none).extension = none := by
    decide +kernel
  have hlimit : generator.limit = 3 := rfl
  refine ⟨?_, ?_⟩
  · obtain ⟨-, hsupported, -⟩ := failures_counted_over_session generator (· = .csharp) id 4 _
      hfactory start rfl 0 {} start .opened
    obtain ⟨outcome, session, after, hperform, hreported, -⟩ :=
      hsupported source {} .csharp _ hknown rfl rfl
    obtain ⟨message, hfailed⟩ := hreported.failed_iff.2 (by decide)
    obtain ⟨-, hmessage, hsession⟩ := hreported.of_failed _ _ hfailed
    rw [hperform, hfailed, hsession, hmessage]
    exact ⟨after, rfl⟩
  · have hallowed : (Request.refresh source {}).Allowed generator (· = .csharp) start := by
      intro language hlanguage
      rw [hknown] at hlanguage
      cases hlanguage
      exact ⟨rfl, _, rfl⟩
    have hone := SessionRun.opened.requested (.refresh source {}) hallowed
    have htwo := hone.requested (.refresh (.text "x" "txt" none) {}) (by
      intro language hlanguage
      rw [hunknown] at hlanguage
      cases hlanguage)
    have hthree := htwo.requested .clear trivial
    simp only [Request.isSupported, hknown, hunknown, Option.isSome_some, Option.isSome_none,
      Bool.toNat_true, Bool.toNat_false, Nat.zero_add, Nat.add_zero] at hthree
    refine ⟨_, _, hthree, ?_⟩
    obtain ⟨-, hsupported, -⟩ := failures_counted_over_session generator (· = .csharp) id 4 _
      hfactory start rfl _ _ _ hthree
    obtain ⟨outcome, session, after, hperform, hreported, hcalls⟩ :=
      hsupported source {} .csharp _ hknown rfl rfl
    obtain ⟨outline, hready⟩ := hreported.ready_iff.2 (by decide)
    obtain ⟨hattempts, hsession⟩ := hreported.of_ready outline hready
    rw [hlimit] at hattempts hcalls
    refine ⟨outline, after, ?_, hattempts, hcalls⟩
    rw [hperform, hready, hsession]

end SourceOutline
