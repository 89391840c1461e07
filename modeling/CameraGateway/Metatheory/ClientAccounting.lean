import CameraGateway.Metatheory.MetricsCoherence

/-!
The client counters against the history of a run. A request is counted in by main,
and counted out by its client thread or, when the thread cannot be created, by main.
-/
namespace CameraGateway
variable {config : CameraConfig} {g g' : Gateway}

/-- How often a request has been counted in and out. -/
structure ClientLog where
  countedIn : Nat
  countedOut : Nat
deriving DecidableEq, Repr

namespace ClientLog

def empty : ClientLog := { countedIn := 0, countedOut := 0 }

def enter (log : ClientLog) : ClientLog := { log with countedIn := log.countedIn + 1 }

def leave (log : ClientLog) : ClientLog := { log with countedOut := log.countedOut + 1 }

end ClientLog

def CountsIn (g : Gateway) (action : Action) : Prop :=
  action = .main true ∧ ∃ peer path, g.main = .countIn peer path

/-- The step takes the lock to decrement the counter of connected clients. -/
inductive CountsOut (g : Gateway) (action : Action) : Prop where
  | client (i : Nat) (client : HttpClient) (action : action = .client i .go)
      (thread : g.clients[i]? = some client) (state : client.state = .countOut)
  | creation (peer : Nat) (path : List UInt8) (action : action = .main false)
      (main : g.main = .createClient peer path)

def watchClients (g : Gateway) (action : Action) (log : ClientLog) : ClientLog :=
  match action, g.main with
  | .main true, .countIn _ _ => log.enter
  | .main false, .createClient _ _ => log.leave
  | .client i .go, _ =>
      if (g.clients[i]?.map HttpClient.state) = some .countOut then log.leave else log
  | _, _ => log

def accountedGateway (config : CameraConfig) :
    TransitionSystem.System (Gateway × ClientLog) Action :=
  (gateway config).observe ClientLog.empty watchClients

def ClientState.counted : ClientState → Bool
  | .closing | .done => false
  | _ => true

def MainState.counted : MainState → Nat
  | .createClient _ _ => 1
  | _ => 0

def Gateway.counted (g : Gateway) : Nat :=
  g.clients.countP (fun client => client.state.counted) + g.main.counted

theorem not_countsOut_of_in {action : Action} (h : CountsIn g action) : ¬ CountsOut g action := by
  obtain ⟨rfl, -⟩ := h
  intro hout
  cases hout with
  | client i client haction | creation peer path haction => cases haction

theorem watchClients_enter {action : Action} {log : ClientLog} (h : CountsIn g action) :
    watchClients g action log = log.enter := by
  obtain ⟨rfl, peer, path, hmain⟩ := h
  simp only [watchClients, hmain]

theorem watchClients_leave {action : Action} {log : ClientLog} (h : CountsOut g action) :
    watchClients g action log = log.leave := by
  cases h with
  | client i client haction hthread hstate =>
      subst haction
      simp [watchClients, hthread, hstate]
  | creation peer path haction hmain =>
      subst haction
      simp only [watchClients, hmain]

theorem watchClients_other {action : Action} {log : ClientLog} (hin : ¬ CountsIn g action)
    (hout : ¬ CountsOut g action) : watchClients g action log = log := by
  fun_cases watchClients g action log
  case case1 peer path hmain => exact absurd ⟨rfl, peer, path, hmain⟩ hin
  case case2 peer path hmain => exact absurd (.creation peer path rfl hmain) hout
  case case3 i hstate =>
      obtain ⟨client, hclient, hcount⟩ := Option.map_eq_some_iff.mp hstate
      exact absurd (.client i client rfl hclient hcount) hout
  all_goals rfl

section Steps

/-- What a step does to the counters, and to the requests that they count. -/
inductive Counting (g : Gateway) (action : Action) (g' : Gateway) : Prop where
  | kept (counts_in : ¬ CountsIn g action) (counts_out : ¬ CountsOut g action)
      (alive : g'.alive = g.alive)
      (connected : g'.service.connectedClients = g.service.connectedClients)
      (total : g'.service.totalClients = g.service.totalClients) (counted : g'.counted = g.counted)
  | entered (counts : CountsIn g action) (alive : g'.alive = g.alive)
      (service : g'.service = countIn g.service) (counted : g'.counted = g.counted + 1)
  | left (counts : CountsOut g action) (alive : g'.alive = g.alive)
      (service : g'.service = countOut g.service) (counted : g'.counted + 1 = g.counted)
  | started (main : g.main = .initService) (counts_in : ¬ CountsIn g action)
      (counts_out : ¬ CountsOut g action) (service : g'.service = HttpService.zero)
      (counted : g'.counted = g.counted)
  | destroyed (result : Int) (main : g.main = .destroy result) (counts_in : ¬ CountsIn g action)
      (counts_out : ¬ CountsOut g action) (alive : g'.alive = false)

theorem wake_counted (client : HttpClient) : client.wake.state.counted = client.state.counted := by
  rw [HttpClient.wake]
  split
  · rename_i hblocked
    rw [hblocked]
    rfl
  · rfl

theorem countP_wake (clients : List HttpClient) :
    (clients.map HttpClient.wake).countP (fun client => client.state.counted) =
      clients.countP fun client => client.state.counted := by
  rw [List.countP_map]
  exact List.countP_congr fun client _ => by rw [Function.comp_apply, wake_counted]

theorem not_countsIn_main {ok : Bool} (h : ok = false ∨ ∀ peer path, g.main ≠ .countIn peer path) :
    ¬ CountsIn g (.main ok) := by
  rintro ⟨hok, peer, path, hmain⟩
  cases hok
  cases h with
  | inl hfalse => cases hfalse
  | inr hnever => exact hnever peer path hmain

theorem not_countsOut_main {ok : Bool}
    (h : ok = true ∨ ∀ peer path, g.main ≠ .createClient peer path) :
    ¬ CountsOut g (.main ok) := by
  intro hcounts
  cases hcounts with
  | client i client haction => cases haction
  | creation peer path haction hmain =>
      cases haction
      cases h with
      | inl htrue => cases htrue
      | inr hnever => exact hnever peer path hmain

theorem mainStep_counting {ok : Bool} (h : g.mainStep config ok = some g') :
    Counting g (.main ok) g' := by
  -- away from the two places that count, main keeps its threads and the counters
  have quiet : (∀ peer path, g.main ≠ .countIn peer path) →
      (∀ peer path, g.main ≠ .createClient peer path) → g'.alive = g.alive →
      g'.service.connectedClients = g.service.connectedClients →
      g'.service.totalClients = g.service.totalClients →
      g'.clients.countP (fun client => client.state.counted) =
        g.clients.countP (fun client => client.state.counted) →
      g'.main.counted = 0 → Counting g (.main ok) g' := by
    intro hin hout halive hconnected htotal hclients hmain
    have hbefore : g.main.counted = 0 := by
      cases hg : g.main with
      | createClient peer path => exact absurd hg (hout peer path)
      | _ => rfl
    refine .kept (not_countsIn_main (Or.inr hin)) (not_countsOut_main (Or.inr hout)) halive
      hconnected htotal ?_
    rw [Gateway.counted, Gateway.counted, hclients, hmain, hbefore]
  revert h quiet
  fun_cases Gateway.mainStep config g ok
  case case2 hmain _ | case7 hmain =>
      intro h quiet
      cases ok <;> (cases h; exact quiet (by simp [hmain]) (by simp [hmain]) rfl rfl rfl rfl rfl)
  case case3 hmain _ =>
      intro h _
      cases h
      refine .started hmain (not_countsIn_main (Or.inr (by simp [hmain])))
        (not_countsOut_main (Or.inr (by simp [hmain]))) rfl ?_
      rw [Gateway.counted, Gateway.counted, hmain]
      rfl
  case case16 peer path hmain hok =>
      intro h _
      cases h
      refine .entered ⟨by rw [hok], peer, path, hmain⟩ rfl rfl ?_
      rw [Gateway.counted, Gateway.counted, hmain]
      rfl
  case case17 peer path hmain hok =>
      intro h _
      cases h
      refine .kept (not_countsIn_main (Or.inl (by simpa using hok)))
        (not_countsOut_main (Or.inr (by simp [hmain]))) rfl rfl rfl ?_
      rw [Gateway.counted, Gateway.counted, hmain]
      rfl
  case case18 peer path hmain hok =>
      intro h _
      cases h
      refine .kept (not_countsIn_main (Or.inr (by simp [hmain])))
        (not_countsOut_main (Or.inl hok)) rfl rfl rfl ?_
      rw [Gateway.counted, Gateway.counted, hmain, List.countP_append]
      dsimp only
      split <;> rfl
  case case19 peer path hmain hok =>
      intro h _
      cases h
      refine .left (.creation peer path (by simpa using hok) hmain) rfl rfl ?_
      rw [Gateway.counted, Gateway.counted, hmain]
      rfl
  case case22 hmain _ =>
      intro h quiet
      cases h
      exact quiet (by simp [hmain]) (by simp [hmain]) rfl rfl rfl (countP_wake g.clients) rfl
  case case27 result hmain _ =>
      intro h _
      cases h
      exact .destroyed result hmain (not_countsIn_main (Or.inr (by simp [hmain])))
        (not_countsOut_main (Or.inr (by simp [hmain]))) rfl
  all_goals
    intro h quiet
    cases h <;> exact quiet (by simp [*]) (by simp [*]) rfl rfl rfl rfl rfl

/-- A thread that does not count itself out stays on the side where it is. -/
theorem clientStep_counted {service : HttpService} {index : Nat} {client client' : HttpClient}
    {event : ClientEvent} (h : clientStep config service index client event = some client') :
    client'.state.counted = client.state.counted := by
  have sent : ∀ {sent : Sent} {ok failed : ClientState},
      client.afterSend sent ok failed = some client' → ok.counted = true →
      failed.counted = true → client'.state.counted = true := by
    intro sent ok failed hafter hok hfailed
    cases (afterSend_state hafter).2.2 with
    | inl hstate => rw [hstate, hok]
    | inr hstate => rw [hstate, hfailed]
  revert h sent
  fun_cases clientStep config service index client event
  case case1 malloc hstate =>
      intro h _
      cases h
      rw [hstate, HttpClient.dispatch]
      split
      · rfl
      · dsimp only
        split <;> rfl
      · rfl
      · rfl
  case case2 malloc hstate | case3 malloc hstate =>
      intro h _
      cases h
      rw [hstate, HttpClient.waitStep]
      split
      · rfl
      · split <;> rfl
  case case5 hstate | case6 hstate | case7 hstate =>
      intro h sent
      rw [hstate]
      exact sent h rfl rfl
  case case9 hstate | case11 hstate | case14 hstate =>
      intro h _
      cases h
      rw [hstate]
      rfl
  case case13 hstate =>
      intro h _
      cases h
      rw [hstate]
      split <;> rfl
  all_goals
    intro h _
    cases h

theorem stepClient_counting {i : Nat} {event : ClientEvent}
    (h : g.stepClient config i event = some g') : Counting g (.client i event) g' := by
  have not_in : ¬ CountsIn g (.client i event) := by
    rintro ⟨haction, -⟩
    cases haction
  obtain ⟨client, client', hclient, -, hcases⟩ := stepClient_cases h
  have hlt : i < g.clients.length := (List.getElem?_eq_some_iff.mp hclient).1
  have hget : g.clients[i] = client := (List.getElem?_eq_some_iff.mp hclient).2
  cases hcases with
  | inl hcount =>
      obtain ⟨hstate, rfl, rfl⟩ := hcount
      have hgo : event = .go := by
        cases event with
        | go => rfl
        | copied _ | sent _ | wakeUp | timeout =>
            simp [Gateway.stepClient, hclient, hstate, clientStep] at h
      subst hgo
      refine .left (.client i client rfl hclient hstate) rfl rfl ?_
      have hpos : 0 < g.clients.countP fun client => client.state.counted :=
        List.countP_pos_iff.mpr ⟨client, List.mem_of_getElem? hclient, by rw [hstate]; rfl⟩
      have hbefore : client.state.counted = true := by rw [hstate]; rfl
      have hafter : (client.goto .closing).state.counted = false := rfl
      rw [Gateway.counted, Gateway.counted, List.countP_set hlt, hget, hbefore, hafter, if_pos rfl,
        if_neg Bool.false_ne_true]
      dsimp only
      omega
  | inr hstep =>
      obtain ⟨hstep, rfl⟩ := hstep
      have not_out : ¬ CountsOut g (.client i event) := by
        intro hcounts
        cases hcounts with
        | creation peer path haction => cases haction
        | client i other haction hother hstate =>
            cases haction
            cases hclient.symm.trans hother
            simp [clientStep, hstate] at hstep
      refine .kept not_in not_out rfl rfl rfl ?_
      have hle : (if client.state.counted = true then 1 else 0) ≤
          g.clients.countP fun client => client.state.counted := by
        split
        · rename_i hcounted
          exact List.countP_pos_iff.mpr ⟨client, List.mem_of_getElem? hclient, hcounted⟩
        · exact Nat.zero_le _
      rw [Gateway.counted, Gateway.counted, List.countP_set hlt, hget, clientStep_counted hstep,
        Nat.sub_add_cancel hle]

theorem step_counting {action : Action} (h : g.step config action = some g') :
    Counting g action g' := by
  have quiet : (∀ ok, action ≠ .main ok) → (∀ i event, action ≠ .client i event) →
      ¬ CountsIn g action ∧ ¬ CountsOut g action := by
    intro hmain hclient
    constructor
    · exact fun hin => hmain true hin.1
    · intro hout
      cases hout with
      | client i _ haction => exact hclient i .go haction
      | creation _ _ haction => exact hmain false haction
  cases action with
  | main ok => exact mainStep_counting h
  | capture event =>
      obtain ⟨step, hstep, rfl⟩ := Option.map_eq_some_iff.mp h
      obtain ⟨not_in, not_out⟩ := quiet (by simp) (by simp)
      have hcounted : (g.applyCapture step).counted = g.counted := by
        rw [Gateway.counted, Gateway.counted, Gateway.applyCapture]
        split
        · rw [countP_wake]
        · rfl
      cases captureStep_shared hstep with
      | quiet _ _ hshared =>
          exact .kept not_in not_out rfl hshared.connected hshared.total hcounted
      | publishes _ _ _ _ _ _ _ hok =>
          obtain ⟨-, -, hservice, -⟩ := httpServiceUpdateLatest_ok hok
          refine .kept not_in not_out rfl ?_ ?_ hcounted <;> rw [Gateway.applyCapture, hservice]
      | stops _ _ _ _ hservice =>
          refine .kept not_in not_out rfl ?_ ?_ hcounted <;> rw [Gateway.applyCapture, hservice] <;>
            rfl
  | client i event => exact stepClient_counting h
  | peer event =>
      obtain ⟨peers, backlog, rfl⟩ := stepPeer_frame h
      obtain ⟨not_in, not_out⟩ := quiet (by simp) (by simp)
      exact .kept not_in not_out rfl rfl rfl rfl

end Steps

theorem countOut_total (service : HttpService) :
    (countOut service).totalClients = service.totalClients := by
  rw [countOut]
  split <;> rfl

/-- The counters of a live service, and the requests that the history has seen. -/
structure Accounting (g : Gateway) (log : ClientLog) : Prop where
  total : g.alive = true → g.service.totalClients = log.countedIn
  connected : g.alive = true → g.service.connectedClients = g.counted
  balance : g.alive = true → g.counted + log.countedOut = log.countedIn
  bound : log.countedIn + g.main.uncounted ≤ g.requestCount
  limit : g.requestCount ≤ Gateway.requestLimit

/-- Nothing has been counted before the service exists. -/
def Unstarted (g : Gateway) (log : ClientLog) : Prop :=
  g.main = .start ∨ g.main = .initService → g.counted = 0 ∧ log = ClientLog.empty

theorem unstarted_step {action : Action} {log : ClientLog} (hsetup : Setup g)
    (hg : Unstarted g log) (hs : g.step config action = some g') :
    Unstarted g' (watchClients g action log) := by
  have none_running : g.main = .start ∨ g.main = .initService → g.clients = [] := by
    intro hmain
    apply (hsetup _).2
    cases hmain with
    | inl h => exact Or.inl h
    | inr h => exact Or.inr (Or.inl h)
  intro hmain
  have hbefore : g.main = .start ∨ g.main = .initService := by
    cases action with
    | main ok => exact Or.inl (mainStep_unstarted hs hmain).1
    | capture event =>
        obtain ⟨step, -, rfl⟩ := Option.map_eq_some_iff.mp hs
        exact hmain
    | client i event =>
        rw [(stepClient_frame hs).main] at hmain
        exact hmain
    | peer event =>
        obtain ⟨peers, backlog, rfl⟩ := stepPeer_frame hs
        exact hmain
  obtain ⟨hcounted, hlog⟩ := hg hbefore
  have nothing : ¬ CountsIn g action ∧ ¬ CountsOut g action := by
    constructor
    · rintro ⟨-, peer, path, hin⟩
      simp [hin] at hbefore
    · intro hout
      cases hout with
      | client i client _ hclient => simp [none_running hbefore] at hclient
      | creation peer path _ hcreate => simp [hcreate] at hbefore
  rw [watchClients_other nothing.1 nothing.2]
  refine ⟨?_, hlog⟩
  cases step_counting hs with
  | kept _ _ _ _ _ hsame | started _ _ _ _ hsame => exact hsame.trans hcounted
  | entered hin => exact absurd hin nothing.1
  | left hout => exact absurd hout nothing.2
  | destroyed result hdestroy => simp [hdestroy] at hbefore

theorem accounting_step {action : Action} {log : ClientLog} (hunstarted : Unstarted g log)
    (hg : Accounting g log) (hs : g.step config action = some g') :
    Accounting g' (watchClients g action log) := by
  obtain ⟨total, connected, balance, bound, limit⟩ := hg
  have hrequests : g.requestCount + g'.main.uncounted ≤ g'.requestCount + g.main.uncounted ∧
      g'.requestCount ≤ Gateway.requestLimit := by
    cases action with
    | main ok =>
        obtain ⟨hcount, hlimit⟩ := mainStep_requestCount hs
        exact ⟨by omega, hlimit limit⟩
    | capture event =>
        obtain ⟨step, -, rfl⟩ := Option.map_eq_some_iff.mp hs
        exact ⟨Nat.le_refl _, limit⟩
    | client i event =>
        have hframe := stepClient_frame hs
        rw [hframe.main, hframe.requestCount]
        exact ⟨Nat.le_refl _, limit⟩
    | peer event =>
        obtain ⟨peers, backlog, rfl⟩ := stepPeer_frame hs
        exact ⟨Nat.le_refl _, limit⟩
  cases step_counting hs with
  | kept not_in not_out halive hconnected htotal hcounted =>
      rw [watchClients_other not_in not_out]
      refine ⟨?_, ?_, ?_, by omega, hrequests.2⟩
      · rw [halive, htotal]
        exact total
      · rw [halive, hconnected, hcounted]
        exact connected
      · rw [halive, hcounted]
        exact balance
  | entered hin halive hservice hcounted =>
      rw [watchClients_enter hin]
      obtain ⟨rfl, peer, path, hmain⟩ := hin
      have hcount := (mainStep_requestCount hs).1
      have huncounted : g.main.uncounted = 1 := by rw [hmain]; rfl
      have hlimit := hrequests.2
      rw [Gateway.requestLimit] at hlimit
      refine ⟨?_, ?_, ?_, ?_, hrequests.2⟩
      · intro halive'
        rw [hservice, ClientLog.enter]
        have hbefore := total (halive ▸ halive')
        simp only [countIn]
        rw [hbefore, u32, Nat.mod_eq_of_lt (by omega)]
      · intro halive'
        have hbefore := connected (halive ▸ halive')
        have hbalance := balance (halive ▸ halive')
        rw [hservice, hcounted]
        simp only [countIn]
        rw [hbefore, u32, Nat.mod_eq_of_lt (by omega)]
      · intro halive'
        have hbalance := balance (halive ▸ halive')
        simp only [ClientLog.enter]
        omega
      · simp only [ClientLog.enter]
        omega
  | left hout halive hservice hcounted =>
      rw [watchClients_leave hout]
      refine ⟨?_, ?_, ?_, by simp only [ClientLog.leave]; omega, hrequests.2⟩
      · intro halive'
        rw [hservice, countOut_total]
        exact total (halive ▸ halive')
      · intro halive'
        have hbefore := connected (halive ▸ halive')
        rw [hservice, countOut, if_pos (by omega)]
        simp only
        omega
      · intro halive'
        have hbalance := balance (halive ▸ halive')
        simp only [ClientLog.leave]
        omega
  | started hmain not_in not_out hservice hcounted =>
      obtain ⟨hnone, hempty⟩ := hunstarted (Or.inr hmain)
      rw [watchClients_other not_in not_out]
      refine ⟨?_, ?_, ?_, by omega, hrequests.2⟩
      · rw [hservice, hempty]
        exact fun _ => rfl
      · rw [hservice, hcounted, hnone]
        exact fun _ => rfl
      · rw [hcounted, hnone, hempty]
        exact fun _ => rfl
  | destroyed result hmain not_in not_out hdead =>
      rw [watchClients_other not_in not_out]
      refine ⟨?_, ?_, ?_, by omega, hrequests.2⟩ <;> simp [hdead]

theorem reachable_accounting {log : ClientLog}
    (h : TransitionSystem.Reachable (accountedGateway config) (g, log)) : Accounting g log := by
  have hboth : Unstarted g log ∧ Accounting g log := by
    refine TransitionSystem.Reachable.observed_invariant
      (I := fun g log => Unstarted g log ∧ Accounting g log) ⟨fun _ => ⟨rfl, rfl⟩, ?_⟩ ?_ h
    · exact ⟨nofun, nofun, nofun, Nat.zero_le _, Nat.zero_le _⟩
    · intro g g' log action hreach hg hs
      exact ⟨unstarted_step (reachable_setup hreach) hg.1 hs, accounting_step hg.1 hg.2 hs⟩
  exact hboth.2

/-- The counters are exact: `connected_clients` counts the requests that were
counted in and not yet counted out, which are those of the threads that run and of a
thread about to be created, and `total_clients` all that were counted in. The guard
of a decrement never fails. -/
theorem client_accounting_exact {log : ClientLog}
    (h : TransitionSystem.Reachable (accountedGateway config) (g, log)) (halive : g.alive = true) :
    g.service.connectedClients =
        g.clients.countP (fun client => client.state.counted) + g.main.counted ∧
      g.service.connectedClients + log.countedOut = log.countedIn ∧
      g.service.totalClients = log.countedIn ∧
      ∀ action g', CountsOut g action → g.step config action = some g' →
        0 < g.service.connectedClients := by
  have haccounting := reachable_accounting h
  have hconnected := haccounting.connected halive
  refine ⟨hconnected, ?_, haccounting.total halive, ?_⟩
  · rw [hconnected]
    exact haccounting.balance halive
  · intro action g' hout hs
    cases step_counting hs with
    | left _ _ _ hcounted => omega
    | kept _ not_out | started _ _ not_out | destroyed _ _ _ not_out => exact absurd hout not_out
    | entered hin => exact absurd hout (not_countsOut_of_in hin)

/-- One thread runs and a second request has been counted in. -/
theorem client_accounting_exact_twoRequests :
    ∃ g log, TransitionSystem.Reachable (accountedGateway streamConfig) (g, log) ∧
      (g.alive = true ∧ log.countedIn = 2 ∧ g.main.counted = 1) ∧
      g.service.connectedClients =
          g.clients.countP (fun client => client.state.counted) + g.main.counted ∧
        g.service.connectedClients + log.countedOut = log.countedIn ∧
        g.service.totalClients = log.countedIn ∧
        ∀ action g', CountsOut g action → g.step streamConfig action = some g' →
          0 < g.service.connectedClients := by
  have hrun : (TransitionSystem.exec (accountedGateway streamConfig) (Gateway.init, ClientLog.empty)
      (startup ++ serve 0 (ascii "/stream") ++ (serve 1 (ascii "/metrics")).take 5)).any
      (fun s => decide (s.1.alive = true ∧ s.2.countedIn = 2 ∧ s.1.main.counted = 1)) = true := by
    decide +kernel
  obtain ⟨⟨g, log⟩, hexec, hg⟩ := TransitionSystem.exists_exec_of_any hrun
  have hreach := (TransitionSystem.Reachable.init (accountedGateway streamConfig)).exec hexec
  have hstate := of_decide_eq_true hg
  exact ⟨g, log, hreach, hstate, client_accounting_exact hreach hstate.1⟩

end CameraGateway
