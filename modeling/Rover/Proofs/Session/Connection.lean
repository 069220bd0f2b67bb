import Mathlib.Data.List.Induction
import Rover.Proofs.Session.Disconnect

/-!
# The session's view of the link

Over any requests in any order, the session never counts as connected without a link. It does
not know of an open link exactly if a request to connect reached the robot and could not show
it, and no later one made up for that.
-/

namespace Rover

variable {ρ τ : Type} [Robot ρ] [Ticker τ] {core : ρ → SimulatedRobot}

/-- A request to connect that leaves an open link behind of which the session does not know: the
robot was reached, but showing it failed, and the session did not count as connected before. -/
def Desk.Strands (before : Desk ρ τ) : Prop :=
  before.session.connected = false ∧
    ∃ gain, World.Leads gain before.world (Request.connect.serve before).world ∧
      gain.Reached ∧ gain.Unshown

/-- A request to connect that reached the robot and showed it. -/
def Desk.Welcomes (before : Desk ρ τ) : Prop :=
  ∃ gain, World.Leads gain before.world (Request.connect.serve before).world ∧
    gain.Reached ∧ ¬gain.Unshown

namespace Request

/-- Some request to connect left an open link behind of which the session did not know, and no
later one made up for it. -/
def Stranded (fresh : Desk ρ τ) (requests : List (Request τ)) : Prop :=
  ∃ earlier later, requests = earlier ++ .connect :: later ∧
    (serveAll earlier fresh).Strands ∧
    ∀ between rest, later = between ++ .connect :: rest →
      ¬(serveAll (earlier ++ .connect :: between) fresh).Welcomes

theorem not_stranded_nil (fresh : Desk ρ τ) : ¬Stranded fresh [] := by
  rintro ⟨earlier, later, split, -⟩
  simp at split

theorem stranded_concat (fresh : Desk ρ τ) (requests : List (Request τ)) (last : Request τ) :
    Stranded fresh (requests ++ [last]) ↔
      (last = .connect ∧ (serveAll requests fresh).Strands) ∨
        (Stranded fresh requests ∧ ¬(last = .connect ∧ (serveAll requests fresh).Welcomes)) := by
  constructor
  · rintro ⟨earlier, later, split, strands, unwelcome⟩
    rcases List.eq_nil_or_concat later with rfl | ⟨later, final, rfl⟩
    · obtain ⟨rfl, same⟩ := List.append_inj' split rfl
      rw [List.singleton_inj] at same
      exact .inl ⟨same, strands⟩
    · rw [List.concat_eq_append, ← List.cons_append, ← List.append_assoc] at split
      rcases List.append_inj' split rfl with ⟨rfl, same⟩
      rw [List.singleton_inj] at same
      subst same
      refine .inr ⟨⟨earlier, later, rfl, strands, ?_⟩, ?_⟩
      · rintro between rest rfl
        exact unwelcome between (rest ++ [last]) (by simp)
      · rintro ⟨rfl, welcomes⟩
        exact unwelcome later [] (by simp) welcomes
  · rintro (⟨rfl, strands⟩ | ⟨⟨earlier, later, rfl, strands, unwelcome⟩, unmended⟩)
    · refine ⟨requests, [], rfl, strands, ?_⟩
      intro between rest split
      simp at split
    · refine ⟨earlier, later ++ [last], by simp, strands, ?_⟩
      intro between rest split welcomes
      rcases List.eq_nil_or_concat rest with rfl | ⟨rest, final, rfl⟩
      · obtain ⟨rfl, same⟩ := List.append_inj' split rfl
        rw [List.singleton_inj] at same
        exact unmended ⟨same, welcomes⟩
      · rw [List.concat_eq_append, ← List.cons_append, ← List.append_assoc] at split
        rcases List.append_inj' split rfl with ⟨rfl, -⟩
        exact unwelcome between rest rfl welcomes

/-- The session does not count as connected without a link, and it does not know of an open link
exactly if one was stranded. -/
structure Accounts (core : ρ → SimulatedRobot) (desk : Desk ρ τ) (stranded : Prop) : Prop where
  linked : desk.session.connected = true → (core desk.world.robot).connected = true
  unknown : stranded ↔
    desk.session.connected = false ∧ (core desk.world.robot).connected = true

namespace Accounts

variable {before after : Desk ρ τ} {stranded : Prop}

omit [Robot ρ] [Ticker τ] in
theorem of_unchanged (accounts : Accounts core before stranded)
    (session : after.session.connected = before.session.connected)
    (link : (core after.world.robot).connected = (core before.world.robot).connected) :
    Accounts core after stranded where
  linked := by
    rw [session, link]
    exact accounts.linked
  unknown := by
    rw [session, link]
    exact accounts.unknown

theorem serve_other (accounts : Accounts core before stranded) (link : IsLink core)
    {request : Request τ} (opens : request ≠ .connect) (closes : request ≠ .disconnect) :
    Accounts core (request.serve before) stranded := by
  rcases stays_serve opens closes before with ⟨same, gain, leads, keeps⟩
  exact accounts.of_unchanged same (link.connected_of_keeps leads.robot keeps)

theorem serve_disconnect (accounts : Accounts core before stranded) (link : IsLink core) :
    Accounts core (disconnect.serve before) stranded := by
  cases connected : before.session.connected with
  | false =>
      have unchanged : disconnect.serve before = before :=
        Act.leaves_of_ok (Session.disconnect_of_unconnected connected)
      rwa [unchanged]
  | true =>
      rcases Session.disconnect_cases link connected with ⟨same, unchanged⟩ | ⟨noted, closed⟩
      · exact accounts.of_unchanged (congrArg Session.connected same) unchanged
      · refine ⟨?_, ?_⟩
        · intro again
          rw [serve, noted] at again
          cases again
        · have known : ¬stranded := by
            rw [accounts.unknown, connected]
            simp
          rw [serve, closed]
          simp [known]

theorem serve_connect (accounts : Accounts core before stranded) (link : IsLink core) :
    Accounts core (connect.serve before)
      (before.Strands ∨ stranded ∧ ¬before.Welcomes) := by
  rcases Session.connect_lands link before with ⟨gain, leads, lands⟩
  have strands : before.Strands ↔
      before.session.connected = false ∧ gain.Reached ∧ gain.Unshown := by
    constructor
    · rintro ⟨unconnected, other, same, reached, failed⟩
      rw [leads.unique same]
      exact ⟨unconnected, reached, failed⟩
    · rintro ⟨unconnected, reached, failed⟩
      exact ⟨unconnected, gain, leads, reached, failed⟩
  have welcomes : before.Welcomes ↔ gain.Reached ∧ ¬gain.Unshown := by
    constructor
    · rintro ⟨other, same, reached, showed⟩
      rw [leads.unique same]
      exact ⟨reached, showed⟩
    · rintro ⟨reached, showed⟩
      exact ⟨gain, leads, reached, showed⟩
  rw [strands, welcomes]
  cases lands with
  | missed unreached same unchanged =>
      have stays : Accounts core (connect.serve before) stranded :=
        accounts.of_unchanged (congrArg Session.connected same) unchanged
      simpa [unreached] using stays
  | stranded reached failed same opened =>
      have unnoticed : stranded → before.session.connected = false := fun was =>
        (accounts.unknown.mp was).1
      refine ⟨fun _ => opened, ?_⟩
      rw [serve, same, opened]
      simpa [reached, failed] using unnoticed
  | welcomed reached showed noted opened =>
      refine ⟨fun _ => opened, ?_⟩
      rw [serve, noted]
      simp [reached, showed]

end Accounts

/-- One step for every request, and the induction over the requests. -/
theorem accounts_serveAll (link : IsLink core) {fresh : Desk ρ τ}
    (unconnected : fresh.session.connected = false)
    (apart : (core fresh.world.robot).connected = false) (requests : List (Request τ)) :
    Accounts core (serveAll requests fresh) (Stranded fresh requests) := by
  induction requests using List.reverseRecOn with
  | nil =>
      refine ⟨?_, ?_⟩
      · simp [unconnected]
      · simp [not_stranded_nil, apart]
  | append_singleton requests last ih =>
      rw [serveAll_concat, stranded_concat]
      cases last with
      | connect => simpa using ih.serve_connect link
      | disconnect => simpa using ih.serve_disconnect link
      | _ => simpa using ih.serve_other link (by simp) (by simp)

/-- Over any link to a simulated robot that is not connected at first, and after any requests, a
session that counts as connected has an open link. The two agree exactly if no request to connect
left an open link behind of which the session does not know. Otherwise the link is open, and a
request to disconnect does nothing about it. -/
theorem connected_eq_iff_not_stranded (link : IsLink core) {config : Config} {session : Session}
    (fresh : Session.open? config = .ok session) {world : World ρ τ}
    (apart : (core world.robot).connected = false) (requests : List (Request τ)) :
    let start : Desk ρ τ := ⟨session, world⟩
    let after := serveAll requests start
    (after.session.connected = true → (core after.world.robot).connected = true) ∧
    (after.session.connected = (core after.world.robot).connected ↔ ¬Stranded start requests) ∧
    (Stranded start requests →
      (core after.world.robot).connected = true ∧ Session.disconnect after = .ok () after) := by
  intro start after
  rcases Session.open_eq_ok_iff.mp fresh with ⟨-, parameters, -, rfl⟩
  have accounts : Accounts core after (Stranded start requests) :=
    accounts_serveAll link rfl apart requests
  refine ⟨accounts.linked, ?_, ?_⟩
  · rw [accounts.unknown]
    cases connected : after.session.connected with
    | true => simp [accounts.linked connected]
    | false => simp
  · intro stranded
    rcases accounts.unknown.mp stranded with ⟨unconnected, opened⟩
    exact ⟨opened, Session.disconnect_of_unconnected unconnected⟩

/-- A fresh robot behind a link on which the first call after connecting is lost. -/
def lostLed : World (Unreliable SimulatedRobot) ManualTicker where
  robot := { robot := {}, faults := [⟨1, .writeFailed "set_led"⟩] }
  ticker := {}

/-- The blue LED cannot be shown, so the session does not know of its link until the robot is
reached again. -/
theorem stranded_until_welcomed :
    Stranded ⟨.standard, lostLed⟩ [.connect] ∧
      ¬Stranded ⟨.standard, lostLed⟩ [.connect, .connect] := by
  have once := connected_eq_iff_not_stranded isLink_id.unreliable Session.open_standard
    (rfl : (id lostLed.robot.robot).connected = false) [.connect]
  have twice := connected_eq_iff_not_stranded isLink_id.unreliable Session.open_standard
    (rfl : (id lostLed.robot.robot).connected = false) [.connect, .connect]
  constructor
  · by_contra known
    have agree := once.2.1.mpr known
    revert agree
    decide +kernel
  · apply twice.2.1.mp
    decide +kernel

/-- A fresh session and a fresh robot that disagree about the link after a single request. A
request to disconnect succeeds and leaves the link open. -/
theorem link_unknown_after_lost_led :
    Session.open? .standard = .ok .standard ∧ lostLed.robot.robot.connected = false ∧
    let after := serveAll [.connect] (⟨.standard, lostLed⟩ : Desk _ ManualTicker)
    after.session.connected = false ∧ after.world.robot.robot.connected = true ∧
      (disconnect.serve after).world.robot.robot.connected = true := by
  refine ⟨Session.open_standard, rfl, ?_⟩
  decide +kernel

end Request

end Rover
