import Wamp.Network
import Wamp.Proofs.Router.Components

/-!
# Runs of a network

Sessions attach to the router of a network and detach from it, and clients send.  The router of a
network goes through a run of its own, so what its operations keep holds throughout.  Messages are
delivered in the order in which the router returned them.
-/

namespace Wamp.Network

inductive Operation where
  | attach (session : Session)
  | detach (session : Id)
  | send (ambient : Ambient) (session : Id) (message : Message)

/-- Performs an operation; the answer is what was delivered. -/
def perform (network : Network) : Operation → Reply (List Delivery)
  | .attach session =>
    let outcome := network.attach session
    { outcome with answer := outcome.answer.map fun () => [] }
  | .detach session =>
    let outcome := network.detach session
    { outcome with answer := outcome.answer.map fun () => [] }
  | .send ambient session message => network.send ambient session message

/-- The network of a new router, without clients. -/
def ofSettings (realm : String) (settings : Settings) : Network where
  router := .ofSettings realm settings

def drawnIds (realm : String) (settings : Settings) (operations : List Operation) : List Id :=
  Run.drawn perform (fun network => network.router.broker.ids) (ofSettings realm settings)
    operations

/-- What the router of a network is asked for. -/
def Operation.forRouter : Operation → Router.Operation
  | .attach session => .attach session
  | .detach session => .detach session
  | .send ambient session message => .receive ambient session message

/-! ## The router of a network -/

theorem router_forward (network : Network) (ambient : Ambient) (session : Id)
    (message : Message) :
    (network.forward ambient session message).state.router =
      (network.router.receive ambient session message).state := by
  unfold forward
  simp only
  split <;> rfl

/-- The router performs an operation, unless a client session has refused it before. -/
theorem router_perform (network : Network) (operation : Operation) :
    (network.perform operation).state.router = network.router ∨
      (network.perform operation).state.router =
        (network.router.perform operation.forRouter).state := by
  cases operation with
  | attach session => exact Or.inr rfl
  | detach session => exact Or.inr rfl
  | send ambient session message =>
      simp only [perform, send]
      split
      next => exact Or.inr (network.router_forward ambient session message)
      next client _ =>
        split
        next => exact Or.inl rfl
        next => exact Or.inr (router_forward _ ambient session message)

theorem countsUp : Run.CountsUp perform fun network : Network => network.router.broker.ids := by
  intro network operation
  simp only
  rcases network.router_perform operation with hsame | hperformed
  · rw [hsame]
    exact Or.inl rfl
  · rw [hperformed]
    exact Router.countsUp network.router operation.forRouter

section Invariant

variable (Good : Router → Prop)

theorem router_final
    (hstep : ∀ router operation, Good router → Good (Router.perform router operation).state)
    {network : Network} (hgood : Good network.router) (operations : List Operation) :
    Good (Run.final perform network operations).router := by
  refine Run.final_induction (fun network : Network => Good network.router) ?_ hgood operations
  intro network operation hgood
  rcases network.router_perform operation with hsame | hperformed
  · rw [hsame]
    exact hgood
  · rw [hperformed]
    exact hstep network.router operation.forRouter hgood

theorem router_final_of_drawn
    (hstep : ∀ router operation, router.broker.ids.last.toNat < maxId.toNat → Good router →
      Good (Router.perform router operation).state)
    {realm : String} {settings : Settings} (hgood : Good (.ofSettings realm settings))
    (operations : List Operation)
    (hdrawn : (drawnIds realm settings operations).length < maxId.toNat) :
    Good (Run.final perform (ofSettings realm settings) operations).router := by
  refine Run.final_induction_of_drawn (fun network : Network => Good network.router) countsUp ?_
    hgood operations ?_
  · intro network operation hroom hgood
    rcases network.router_perform operation with hsame | hperformed
    · rw [hsame]
      exact hgood
    · rw [hperformed]
      exact hstep network.router operation.forRouter hroom hgood
  · have hroom : 0 + (drawnIds realm settings operations).length < maxId.toNat := by omega
    exact hroom

end Invariant

/-! ## Deliveries -/

section Deliveries

variable {clients : Std.ExtTreeMap Id Client}

theorem delivery_deliver (clients : Std.ExtTreeMap Id Client) (routed : Routed) :
    (deliver clients routed).2 =
      { routed
        verdict := (clients[routed.recipient]?).map fun client : Client =>
          (client.receive routed.message).answer } := by
  unfold deliver
  cases clients[routed.recipient]? <;> rfl

theorem getElem?_deliver (clients : Std.ExtTreeMap Id Client) (routed : Routed) (session : Id) :
    (deliver clients routed).1[session]? =
      if routed.recipient = session then
        (clients[session]?).map fun client : Client => (client.receive routed.message).state
      else clients[session]? := by
  unfold deliver
  by_cases hrecipient : routed.recipient = session
  · subst hrecipient
    cases hclient : clients[routed.recipient]? with
    | none => simp [hclient]
    | some client => simp
  · rw [if_neg hrecipient]
    cases clients[routed.recipient]? with
    | none => rfl
    | some client => simp [Std.ExtTreeMap.getElem?_insert, hrecipient]

theorem deliver_of_client {routed : Routed} {client : Client}
    (hclient : clients[routed.recipient]? = some client) :
    (deliver clients routed).1 =
      clients.insert routed.recipient (client.receive routed.message).state := by
  unfold deliver
  rw [hclient]

theorem deliverAll_cons (clients : Std.ExtTreeMap Id Client) (routed : Routed)
    (rest : List Routed) :
    deliverAll clients (routed :: rest) =
      ((deliverAll (deliver clients routed).1 rest).1,
        (deliver clients routed).2 :: (deliverAll (deliver clients routed).1 rest).2) := rfl

/-- The verdict on a message is that of the client session which got the messages before it. -/
theorem verdict_of_mem {routed : List Routed} {delivery : Delivery}
    (hmem : delivery ∈ (deliverAll clients routed).2) :
    ∃ before after, routed = before ++ delivery.routed :: after ∧
      delivery.verdict =
        ((deliverAll clients before).1[delivery.routed.recipient]?).map fun client : Client =>
          (client.receive delivery.routed.message).answer := by
  induction routed generalizing clients with
  | nil => simp [deliverAll] at hmem
  | cons first rest ih =>
      rw [deliverAll_cons, List.mem_cons] at hmem
      rcases hmem with rfl | hrest
      · rw [delivery_deliver]
        exact ⟨[], rest, rfl, rfl⟩
      · obtain ⟨before, after, hsplit, hverdict⟩ := ih hrest
        exact ⟨first :: before, after, by rw [hsplit, List.cons_append], hverdict⟩

theorem deliverAll_induction (Good : Std.ExtTreeMap Id Client → Prop) {routed : List Routed}
    (hstep : ∀ sent ∈ routed, ∀ clients, Good clients → Good (deliver clients sent).1)
    (hgood : Good clients) : Good (deliverAll clients routed).1 := by
  induction routed generalizing clients with
  | nil => exact hgood
  | cons first rest ih =>
      rw [deliverAll_cons]
      exact ih (fun sent hsent => hstep sent (List.mem_cons_of_mem first hsent))
        (hstep first List.mem_cons_self clients hgood)

end Deliveries

end Wamp.Network
