import Roadmap.Base.Json
import Roadmap.Notificator.Sent

/-! Which organisations a run is about: those that the Notifications Gateway lists for its
subscription, asked again while it fails for a reason that may pass. -/
namespace Roadmap.Notificator
open Effects

def requestMaxRetries : Nat := 5

def requestRetryInterval : Nat := 5

structure SubscriptionSettings where
  subscriptionsUrl : Option String := none
  tlsCertPath : String := "/tmp/tls/cert.pem"
  tlsKeyPath : String := "/tmp/tls/key.pem"

inductive FetchError where
  | runtimeError (text : String)
  | httpStatusError (status : Nat)
  | transportError
  | attributeError
  | valueError (eventType : String) (rawIds : Json)
  | other (text : String)

/-- What `except (httpx.HTTPStatusError, httpx.TransportError)` catches. -/
def FetchError.passing : FetchError → Bool
  | .httpStatusError _ | .transportError => true
  | _ => false

/-- What the calls of a fetch meet; `truncated` is int() of a number that JSON reads as a float. -/
structure Gateway where
  loadCertChain : (certfile keyfile : String) → Except FetchError Unit
  reply : (attempt : Nat) → (url eventTypeNames : String) → Except FetchError Json
  truncated : (mantissa : Int) → (scale : Nat) → Int

inductive GatewayEvent where
  | get (url eventTypeNames : String)
  | retrying (attempt maxRetries : Nat)
  | slept (seconds : Nat)
  deriving DecidableEq

abbrev Fetch (α : Type) := EStateM FetchError (List GatewayEvent) α

section Program

variable (gateway : Gateway)

def happens (event : GatewayEvent) : Fetch Unit := modify (· ++ [event])

/-- The attempts from this one on, of which so many are left. -/
def getFrom (url eventType : String) : (attempt left : Nat) → Fetch Json
  | _,0 => pure (.obj [])
  | attempt,left + 1 => do
    happens (.get url eventType)
    match gateway.reply attempt url eventType with
    | .ok data => pure data
    | .error error =>
      if error.passing then
        if attempt = requestMaxRetries then throw error
        else
          happens (.retrying attempt requestMaxRetries)
          happens (.slept requestRetryInterval)
          getFrom url eventType (attempt + 1) left
      else throw error

/-- `int(org_id)` -/
def orgIdOf : Json → Except PyError Int
  | .bool value => .ok (if value then 1 else 0)
  | .num mantissa 0 => .ok mantissa
  | .num mantissa scale => .ok (gateway.truncated mantissa scale)
  | .str text => (Text.intOf 10 text.toList).elim (.error .valueError) .ok
  | _ => .error .typeError

def readOrgIds (eventType : String) (rawIds : Json) : Except FetchError (List Int) :=
  (do (← rawIds.elements).mapM (orgIdOf gateway)).mapError (fun _ => .valueError eventType rawIds)

/-- The base URL, where it is set and not blank. -/
def SubscriptionSettings.configured (settings : SubscriptionSettings) : Option String :=
  settings.subscriptionsUrl.filter (fun url => !url.toList.all Text.isSpace)

def subscriptionUrl (subscription : SubscriptionType) (base : String) : String :=
  .ofList (Text.rstrip ['/'] base.toList) ++ "/subscriptions/rhel/" ++ subscription.application

def fetchSubscribedOrgIds (settings : SubscriptionSettings) (subscription : SubscriptionType) :
    Fetch (List Int) := do
  let some base := settings.configured |
    throw (.runtimeError "ROADMAP_SUBSCRIPTIONS_URL is not configured")
  raised (gateway.loadCertChain settings.tlsCertPath settings.tlsKeyPath)
  let data ← getFrom gateway (subscriptionUrl subscription base) subscription.eventType 1 requestMaxRetries
  let rawIds ← raised ((data.getOr subscription.eventType (.arr [])).mapError (fun _ => .attributeError))
  raised (readOrgIds gateway subscription.eventType rawIds)

def fetched (settings : SubscriptionSettings) (subscription : SubscriptionType) :
    Except FetchError (List Int) × List GatewayEvent :=
  match (fetchSubscribedOrgIds gateway settings subscription).run [] with
  | .ok orgIds events => (.ok orgIds,events)
  | .error error events => (.error error,events)

/-- The attempt that counts: those before it failed for a reason that may pass, and it did not, or
was the last. -/
structure Settled (url eventType : String) (first settled : Nat) : Prop where
  reached : first ≤ settled
  bounded : settled ≤ requestMaxRetries
  before : ∀ earlier, first ≤ earlier → earlier < settled →
    ∃ error, gateway.reply earlier url eventType = .error error ∧ error.passing = true
  stands : ∀ error, gateway.reply settled url eventType = .error error → error.passing = true →
    settled = requestMaxRetries

def attempts (url eventType : String) (first settled : Nat) : List GatewayEvent :=
  (List.range' first (settled - first)).flatMap (fun attempt => [.get url eventType,
    .retrying attempt requestMaxRetries,.slept requestRetryInterval]) ++ [.get url eventType]

variable {gateway} in
theorem Settled.unique {url eventType : String} {first settled other : Nat}
    (one : Settled gateway url eventType first settled) (two : Settled gateway url eventType first other) :
    settled = other := by
  rcases Nat.lt_trichotomy settled other with less | same | less
  · obtain ⟨error,failed,passing⟩ := two.before settled one.reached less
    have last := one.stands error failed passing
    have bound := two.bounded
    omega
  · exact same
  · obtain ⟨error,failed,passing⟩ := one.before other two.reached less
    have last := two.stands error failed passing
    have bound := one.bounded
    omega

theorem attempts_succ (url eventType : String) {first settled : Nat} (less : first < settled) :
    attempts url eventType first settled =
      .get url eventType :: .retrying first requestMaxRetries :: .slept requestRetryInterval ::
        attempts url eventType (first + 1) settled := by
  obtain ⟨more,rfl⟩ := Nat.exists_eq_add_of_lt less
  have here : first + more + 1 - first = more + 1 := by omega
  have later : first + more + 1 - (first + 1) = more := by omega
  rw [attempts,attempts,here,later,List.range'_succ]
  rfl

/-- The loop ends with the reply of the attempt that counts. -/
theorem run_getFrom (url eventType : String) {attempt left : Nat}
    (range : attempt + left = requestMaxRetries + 1) (positive : 0 < left) (events : List GatewayEvent) :
    ∃ settled, Settled gateway url eventType attempt settled ∧
      (getFrom gateway url eventType attempt left).run events =
        (raised (gateway.reply settled url eventType)).run (events ++ attempts url eventType attempt settled) := by
  induction left generalizing attempt events with
  | zero => omega
  | succ left ih =>
    have alone : attempts url eventType attempt attempt = [.get url eventType] := by
      rw [attempts,Nat.sub_self]
      rfl
    have nothing : ∀ earlier, attempt ≤ earlier → earlier < attempt →
        ∃ error, gateway.reply earlier url eventType = .error error ∧ error.passing = true :=
      fun earlier above below => absurd above (Nat.not_le.mpr below)
    have bound : attempt ≤ requestMaxRetries := by omega
    cases replied : gateway.reply attempt url eventType with
    | ok data =>
      refine ⟨attempt,⟨Nat.le_refl _,bound,nothing,fun error failed => ?_⟩,?_⟩
      · rw [replied] at failed
        contradiction
      · simp [getFrom,happens,replied,alone]
    | error error =>
      by_cases ends : error.passing = false ∨ attempt = requestMaxRetries
      · refine ⟨attempt,⟨Nat.le_refl _,bound,nothing,fun other failed passing => ?_⟩,?_⟩
        · cases replied.symm.trans failed
          exact ends.resolve_left (by simp [passing])
        · rw [replied,run_raised_error,alone]
          have thrown : ∀ state, (throw error : Fetch Json).run state = .error error state := fun _ => rfl
          rcases ends with lasting | rfl
          · simp [getFrom,happens,replied,lasting,thrown]
          · simp [getFrom,happens,replied,thrown]
      · obtain ⟨passing,more⟩ := not_or.mp ends
        have again : attempt + 1 + left = requestMaxRetries + 1 := by omega
        obtain ⟨settled,settles,ran⟩ := ih again (by omega) (events ++ [.get url eventType,
          .retrying attempt requestMaxRetries,.slept requestRetryInterval])
        refine ⟨settled,⟨by have := settles.reached; omega,settles.bounded,fun earlier above below => ?_,
          settles.stands⟩,?_⟩
        · by_cases here : earlier = attempt
          · exact ⟨error,here ▸ replied,by simpa using passing⟩
          · exact settles.before earlier (by omega) below
        · rw [attempts_succ url eventType settles.reached]
          simpa [getFrom,happens,replied,passing,more] using ran

variable (settings : SubscriptionSettings) (subscription : SubscriptionType)

/-- The answer that counts lists these organisations under the event type of the subscription. -/
def Listed (orgIds : List Int) : Prop :=
  ∃ base settled fields items, settings.configured = some base ∧
    gateway.loadCertChain settings.tlsCertPath settings.tlsKeyPath = .ok () ∧
    Settled gateway (subscriptionUrl subscription base) subscription.eventType 1 settled ∧
    gateway.reply settled (subscriptionUrl subscription base) subscription.eventType = .ok (.obj fields) ∧
    ((fields.lookup subscription.eventType).getD (.arr [])).elements = .ok items ∧
    List.Forall₂ (fun item orgId => orgIdOf gateway item = .ok orgId) items orgIds

def readReply (reply : Except FetchError Json) : Except FetchError (List Int) := do
  let rawIds ← ((← reply).getOr subscription.eventType (.arr [])).mapError (fun _ => .attributeError)
  readOrgIds gateway subscription.eventType rawIds

theorem readOrgIds_ok (eventType : String) {rawIds : Json} {orgIds : List Int} :
    readOrgIds gateway eventType rawIds = .ok orgIds ↔ ∃ items, rawIds.elements = .ok items ∧
      List.Forall₂ (fun item orgId => orgIdOf gateway item = .ok orgId) items orgIds := by
  rw [readOrgIds,Except.mapError_ok,Except.bind_ok]
  simp only [Except.mapM_ok]

theorem readReply_ok {reply : Except FetchError Json} {orgIds : List Int} :
    readReply gateway subscription reply = .ok orgIds ↔ ∃ fields items, reply = .ok (.obj fields) ∧
      ((fields.lookup subscription.eventType).getD (.arr [])).elements = .ok items ∧
      List.Forall₂ (fun item orgId => orgIdOf gateway item = .ok orgId) items orgIds := by
  constructor
  · intro ok
    obtain ⟨data,replied,rest⟩ := Except.bind_ok.mp ok
    obtain ⟨rawIds,looked,read⟩ := Except.bind_ok.mp rest
    obtain ⟨items,listed,each⟩ := (readOrgIds_ok gateway _).mp read
    cases data with
    | obj fields =>
      cases Except.mapError_ok.mp looked
      exact ⟨fields,items,replied,listed,each⟩
    | _ => cases looked
  · rintro ⟨fields,items,rfl,listed,each⟩
    exact (readOrgIds_ok gateway _).mpr ⟨items,listed,each⟩

theorem fetched_run {outcome : Except FetchError (List Int)} {events : List GatewayEvent}
    (ran : (fetchSubscribedOrgIds gateway settings subscription).run [] = (raised outcome).run events) :
    fetched gateway settings subscription = (outcome,events) := by
  rw [fetched,ran]
  cases outcome <;> rfl

theorem fetched_asked {base : String} (configured : settings.configured = some base)
    (loaded : gateway.loadCertChain settings.tlsCertPath settings.tlsKeyPath = .ok ()) :
    ∃ settled, Settled gateway (subscriptionUrl subscription base) subscription.eventType 1 settled ∧
      fetched gateway settings subscription = (readReply gateway subscription
          (gateway.reply settled (subscriptionUrl subscription base) subscription.eventType),
        attempts (subscriptionUrl subscription base) subscription.eventType 1 settled) := by
  obtain ⟨settled,settles,ran⟩ := run_getFrom gateway (subscriptionUrl subscription base) subscription.eventType
    (show 1 + requestMaxRetries = requestMaxRetries + 1 from rfl) (by decide) []
  refine ⟨settled,settles,fetched_run gateway settings subscription ?_⟩
  simp only [fetchSubscribedOrgIds,configured,loaded,raised_bind,EStateM.run_bind,run_raised_ok,ran]
  rw [List.nil_append,readReply]
  cases gateway.reply settled (subscriptionUrl subscription base) subscription.eventType with
  | error error => rfl
  | ok data => rfl

/-- Without a URL, or with a certificate that cannot be loaded, nothing is asked. -/
theorem fetched_unasked (unasked : ¬ ∃ base, settings.configured = some base ∧
    gateway.loadCertChain settings.tlsCertPath settings.tlsKeyPath = .ok ()) :
    ∃ error, fetched gateway settings subscription = (.error error,[]) := by
  cases configured : settings.configured with
  | none => exact ⟨_,fetched_run gateway settings subscription (by rw [fetchSubscribedOrgIds,configured]; rfl)⟩
  | some base =>
    cases loaded : gateway.loadCertChain settings.tlsCertPath settings.tlsKeyPath with
    | ok _ => exact absurd ⟨base,configured,loaded⟩ unasked
    | error error =>
      refine ⟨error,fetched_run gateway settings subscription ?_⟩
      simp only [fetchSubscribedOrgIds,configured,loaded]
      rfl

theorem fetched_ok {orgIds : List Int} :
    (fetched gateway settings subscription).1 = .ok orgIds ↔ Listed gateway settings subscription orgIds := by
  by_cases asked : ∃ base, settings.configured = some base ∧
      gateway.loadCertChain settings.tlsCertPath settings.tlsKeyPath = .ok ()
  · obtain ⟨base,configured,loaded⟩ := asked
    obtain ⟨settled,settles,outcome⟩ := fetched_asked gateway settings subscription configured loaded
    rw [outcome,readReply_ok]
    constructor
    · rintro ⟨fields,items,replied,listed,each⟩
      exact ⟨base,settled,fields,items,configured,loaded,settles,replied,listed,each⟩
    · rintro ⟨other,later,fields,items,same,_,settling,replied,listed,each⟩
      cases configured.symm.trans same
      cases settles.unique settling
      exact ⟨fields,items,replied,listed,each⟩
  · obtain ⟨error,outcome⟩ := fetched_unasked gateway settings subscription asked
    rw [outcome]
    constructor
    · intro ok
      cases ok
    · rintro ⟨base,_,_,_,configured,loaded,_⟩
      exact absurd ⟨base,configured,loaded⟩ asked

end Program

section Runs

variable {Payload Message : Type} (outside : World Payload Message) (gateway : Gateway)
  (settings : SubscriptionSettings) (describe : FetchError → String)

def World.subscribed : World Payload Message :=
  {outside with fetchSubscribedOrgIds := fun _ subscription =>
    (fetched gateway settings subscription).1.mapError (fun error => .other (describe error))}

/-- Whom a run without an override is for. -/
inductive Recipients (subscription : SubscriptionType) : List Int → Prop where
  | dev {loaded : NotificatorSettings} (loads : outside.orgIdSettings = .ok loaded) (dev : loaded.dev = true) :
    Recipients subscription devOrgIds
  | listed {loaded : NotificatorSettings} {orgIds : List Int} (loads : outside.orgIdSettings = .ok loaded)
    (real : loaded.dev = false) (listed : Listed gateway settings subscription orgIds) :
    Recipients subscription orgIds

theorem orgIdsOf_subscribed (report : Report) {orgIds : List Int} :
    orgIdsOf (outside.subscribed gateway settings describe) report none = .ok orgIds ↔
      Recipients outside gateway settings report.subscription orgIds := by
  have same : orgIdsOf (outside.subscribed gateway settings describe) report none = .ok orgIds ↔
      ∃ loaded, outside.orgIdSettings = .ok loaded ∧
        (if loaded.dev then pure devOrgIds else (fetched gateway settings report.subscription).1.mapError
          (fun error => PyException.other (describe error))) = .ok orgIds := Except.bind_ok
  rw [same]
  constructor
  · rintro ⟨loaded,loads,ids⟩
    cases dev : loaded.dev with
    | true =>
      rw [dev,if_pos rfl] at ids
      cases ids
      exact .dev loads dev
    | false =>
      rw [dev,if_neg Bool.false_ne_true,Except.mapError_ok,fetched_ok] at ids
      exact .listed loads dev ids
  · intro recipients
    cases recipients with
    | dev loads dev => exact ⟨_,loads,by rw [dev]; rfl⟩
    | listed loads real listed =>
      refine ⟨_,loads,?_⟩
      rw [real,if_neg Bool.false_ne_true,Except.mapError_ok,fetched_ok]
      exact listed

/-- A fetch asks nothing, or one thing again until the answer that counts. -/
def AsksAgain (subscription : SubscriptionType) : Prop :=
  (fetched gateway settings subscription).2 = [] ∨ ∃ base settled, settings.configured = some base ∧
    Settled gateway (subscriptionUrl subscription base) subscription.eventType 1 settled ∧
    (fetched gateway settings subscription).2 =
      attempts (subscriptionUrl subscription base) subscription.eventType 1 settled

theorem asksAgain (subscription : SubscriptionType) : AsksAgain gateway settings subscription := by
  by_cases asked : ∃ base, settings.configured = some base ∧
      gateway.loadCertChain settings.tlsCertPath settings.tlsKeyPath = .ok ()
  · obtain ⟨base,configured,loaded⟩ := asked
    obtain ⟨settled,settles,outcome⟩ := fetched_asked gateway settings subscription configured loaded
    exact Or.inr ⟨base,settled,configured,settles,by rw [outcome]⟩
  · obtain ⟨error,outcome⟩ := fetched_unasked gateway settings subscription asked
    exact Or.inl (by rw [outcome])

/-- A run without an override processes those it is for, in order, if its producer starts, and
nobody otherwise; nobody either if the subscriptions cannot be read. -/
theorem subscribers_processed (report : Report) (dryRun forceEmail : Bool) (caches : Caches) :
    let events := traceOf (notification (outside.subscribed gateway settings describe) report dryRun forceEmail none)
      caches
    (∀ orgIds producing, Recipients outside gateway settings report.subscription orgIds → Starts outside producing →
        events.filterMap Event.processed = orgIds) ∧
      ((∀ orgIds producing, Recipients outside gateway settings report.subscription orgIds →
        ¬ Starts outside producing) → events.filterMap Event.processed = []) ∧
      AsksAgain gateway settings report.subscription := by
  intro events
  have course := course_notification (outside.subscribed gateway settings describe) report dryRun forceEmail none caches
  obtain ⟨reached,unreached⟩ := processed_orgs _ report dryRun forceEmail course
  refine ⟨fun orgIds producing recipients starts => ?_,fun never => unreached (fun orgIds producing ids starts => ?_),
    asksAgain gateway settings report.subscription⟩
  · exact reached orgIds producing ((orgIdsOf_subscribed outside gateway settings describe report).mpr recipients)
      ⟨starts.loaded,starts.brokers,starts.made,starts.connects⟩
  · exact never orgIds producing ((orgIdsOf_subscribed outside gateway settings describe report).mp ids)
      ⟨starts.loaded,starts.brokers,starts.made,starts.connects⟩

end Runs

end Roadmap.Notificator
