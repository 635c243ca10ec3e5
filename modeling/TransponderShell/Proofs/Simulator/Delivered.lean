import TransponderShell.Proofs.Simulator.Catalogue

/-!
# What is delivered before a feed is cancelled

One who follows an attribute cancels the feed at some notification, or never. The feed looks whether
it is cancelled before each delivery, so that it ends right behind that notification.

* `Receiver.CancelsAt r g ns k` says that the receiver `r`, which begins with `g` and gets the
  notifications `ns` one after another, cancels the feed exactly at the `k`-th one. `k` is zero if
  the feed has been cancelled from the start, and greater than the number of notifications if it is
  never cancelled.
* `Feed.run_ofList_of_cancelsAt` says that the receiver gets the first `k` notifications then, and
  `Receiver.noting` writes down which these are.
* `Simulator.follow_eq` says that the simulator delivers what waits for the type of a live object
  and the attribute, each notification as the object sends it (`QueuedNotification.sentBy`).

The result is `monitor_delivers`.
-/

namespace TransponderShell

variable {σ γ : Type}

/-! ## Receivers that cancel -/

namespace Receiver

/-- The receiver after it has got notifications. -/
def after (r : Receiver γ) (g : γ) (ns : List Notification) : γ :=
  ns.foldl (fun g n => r.receive n g) g

/-- A receiver that writes down what it receives. -/
def noting (r : Receiver γ) : Receiver (γ × List Notification) where
  cancelled := fun (g, _) => r.cancelled g
  receive := fun n (g, noted) => (r.receive n g, noted ++ [n])
  interrupt := fun (g, noted) => (r.interrupt g, noted)

/-- A receiver that gets notifications one after another cancels the feed exactly at the `k`-th one,
unless there are fewer. -/
structure CancelsAt (r : Receiver γ) (g : γ) (ns : List Notification) (k : Nat) : Prop where
  open_before : ∀ i < k, r.cancelled (r.after g (ns.take i)) = false
  cancelled : k ≤ ns.length → r.cancelled (r.after g (ns.take k)) = true

variable {r : Receiver γ} {g : γ} {ns : List Notification} {k : Nat}

/-- A receiver that cancels from the start. -/
theorem cancelsAt_zero (h : r.cancelled g = true) : r.CancelsAt g ns 0 where
  open_before _ hi := absurd hi (Nat.not_lt_zero _)
  cancelled _ := h

/-- A receiver that never cancels. -/
theorem cancelsAt_of_open (h : ∀ i, r.cancelled (r.after g (ns.take i)) = false) :
    r.CancelsAt g ns (ns.length + 1) where
  open_before i _ := h i
  cancelled hk := absurd hk (Nat.not_succ_le_self _)

/-- With the first notification out of the way, the others follow. -/
theorem CancelsAt.tail {n : Notification} (h : r.CancelsAt g (n :: ns) (k + 1)) :
    r.CancelsAt (r.receive n g) ns k where
  open_before i hi := h.open_before (i + 1) (Nat.succ_lt_succ hi)
  cancelled hk := h.cancelled (Nat.succ_le_succ hk)

/-- Writing down changes nothing else. -/
theorem after_noting (r : Receiver γ) (g : γ) (noted ns : List Notification) :
    r.noting.after (g, noted) ns = (r.after g ns, noted ++ ns) := by
  induction ns generalizing g noted with
  | nil => rw [List.append_nil]; rfl
  | cons n rest ih =>
    show r.noting.after (r.receive n g, noted ++ [n]) rest = _
    rw [ih, List.append_assoc]
    rfl

theorem CancelsAt.noting (h : r.CancelsAt g ns k) (noted : List Notification) :
    r.noting.CancelsAt (g, noted) ns k where
  open_before i hi := by
    rw [after_noting]
    exact h.open_before i hi
  cancelled hk := by
    rw [after_noting]
    exact h.cancelled hk

end Receiver

/-- **A feed ends right behind the notification at which it is cancelled.** -/
theorem Feed.run_ofList_of_cancelsAt {r : Receiver γ} {g : γ} {ns : List Notification} {k : Nat}
    (h : r.CancelsAt g ns k) (state : σ) :
    (ofList state ns).run r g = (.ok (), state, r.after g (ns.take k)) := by
  induction ns generalizing g k with
  | nil => rw [List.take_nil]; rfl
  | cons n rest ih =>
    cases k with
    | zero => exact run_ofList_cancelled r state (n :: rest) g (h.cancelled (Nat.zero_le _))
    | succ k =>
      have hopen : r.cancelled g = false := h.open_before 0 (Nat.succ_pos k)
      simp only [ofList, run, hopen, Bool.false_eq_true, if_false]
      exact ih h.tail

/-- What the receiver has got is a beginning of the list. -/
theorem Feed.run_noting {r : Receiver γ} {g : γ} {ns : List Notification} {k : Nat}
    (h : r.CancelsAt g ns k) (state : σ) :
    (ofList state ns).run r.noting (g, []) = (.ok (), state, r.after g (ns.take k), ns.take k) := by
  rw [run_ofList_of_cancelsAt (h.noting []), Receiver.after_noting]
  rfl

/-! ## What the simulator delivers -/

/-- A waiting notification as an object sends it: with the id of the object, and its values as they
are read. -/
def QueuedNotification.sentBy (n : QueuedNotification) (handle : ObjectHandle) (json : Bool) :
    Notification :=
  ⟨handle.oid, n.values.map fun v => { v with value := Simulator.encode json v.value }⟩

namespace Simulator

/-- The notifications that wait for an attribute of a type, in their order. -/
def waiting (s : Simulator) (type : ObjectType) (name : Text) : List QueuedNotification :=
  s.queue.filter fun n => n.type = type ∧ n.name = name

theorem checkFollowed_eq_ok {handle : ObjectHandle} {name : Text} {s : Simulator} :
    (checkFollowed handle name s).1 = .ok () ↔
      (∃ object, s.object? handle.oid = some object ∧ object.type = handle.type) ∧
        ∃ d, s.catalogue.find? handle.type name = some d ∧ d.isNotification = true := by
  unfold checkFollowed
  simp only [run_bind_eq_ok_of_reads (liveObject_reads handle), liveObject_eq_ok,
    run_bind_eq_ok_of_reads (declaration_reads handle.type name), declaration_eq_ok]
  rw [exists_and_right]
  refine and_congr_right fun _ => exists_congr fun d => and_congr_right fun _ => ?_
  split
  · simp [*]
  · simp [*]

/-- **A notification of a live object can be followed**, and what waits for it is delivered. -/
theorem follow_eq {handle : ObjectHandle} {name : Text} {s : Simulator}
    (hlive : ∃ object, s.object? handle.oid = some object ∧ object.type = handle.type)
    {d : Declaration} (hd : s.catalogue.find? handle.type name = some d)
    (hnotification : d.isNotification = true) (json : Bool) :
    follow handle name json s =
      Feed.ofList s ((s.waiting handle.type name).map (·.sentBy handle json)) := by
  have hresult := checkFollowed_eq_ok.2 ⟨hlive, d, hd, hnotification⟩
  have hchecked : checkFollowed handle name s = (.ok (), s) :=
    Prod.ext hresult (checkFollowed_reads handle name s).symm
  rw [follow, hchecked]
  rfl

/-- **A value of a live object is read** as it is encoded. -/
theorem get_eq {s : Simulator} (hc : s.catalogue.Distinct) {handle : ObjectHandle}
    {object : LiveObject} (hlive : s.object? handle.oid = some object)
    (htype : object.type = handle.type) {d : Declaration} (hd : d ∈ s.catalogue.of handle.type)
    {value : Text} (hvalue : object.values.get? d.name = some value) (json : Bool) :
    daemon.get handle d.name json s = (.ok (encode json value), s) := by
  have hresult : (readAttribute handle d.name json s).1 = .ok (encode json value) :=
    readAttribute_eq_ok.2
      ⟨object, ⟨hlive, htype⟩, d, Catalogue.find?_of_mem hc hd, value, hvalue, rfl⟩
  exact Prod.ext hresult (readAttribute_reads handle d.name json s).symm

/-- **Cancelling delivers an exact beginning**, after every run. Who follows a notification of a
live object and cancels at the `k`-th delivery has got the first `k` of the notifications that wait
for the type and the attribute, each once and in their order: none if the feed has been cancelled
from the start, and all if it is never cancelled. The values are those that reading would show, and
the simulator stays as it is. -/
theorem monitor_delivers {s₀ s : Simulator} (h₀ : Initial s₀) (h : Reaches s₀ s)
    {handle : ObjectHandle}
    (hlive : ∃ object, s.object? handle.oid = some object ∧ object.type = handle.type)
    {d : Declaration} (hd : d ∈ s.catalogue.of handle.type)
    (hnotification : d.isNotification = true) (json : Bool) :
    (∀ (γ : Type) (r : Receiver γ) (g : γ),
      let sent := (s.waiting handle.type d.name).map (·.sentBy handle json)
      (∀ k, r.CancelsAt g sent k →
        (daemon.monitor handle d.name json s).run r.noting (g, []) =
          (.ok (), s, r.after g (sent.take k), sent.take k)) ∧
      (r.cancelled g = true →
        (daemon.monitor handle d.name json s).run r.noting (g, []) = (.ok (), s, g, [])) ∧
      ((∀ i, r.cancelled (r.after g (sent.take i)) = false) →
        (daemon.monitor handle d.name json s).run r.noting (g, []) =
          (.ok (), s, r.after g sent, sent))) ∧
    ∀ (object : ObjectHandle) (live : LiveObject) (e : Declaration) (text : Text),
      s.object? object.oid = some live → live.type = object.type → e ∈ s.catalogue.of object.type →
      live.values.get? e.name = some text →
      daemon.get object e.name json s = (.ok (encode json text), s) := by
  have hc : s.catalogue.Distinct := h.catalogue_eq ▸ h₀.distinct
  constructor
  · intro γ r g sent
    have hfeed : daemon.monitor handle d.name json s = Feed.ofList s sent :=
      follow_eq hlive (Catalogue.find?_of_mem hc hd) hnotification json
    rw [hfeed]
    refine ⟨fun k hk => Feed.run_noting hk s, fun hcancelled => ?_, fun hopen => ?_⟩
    · exact Feed.run_noting (Receiver.cancelsAt_zero hcancelled) s
    · have hrun := Feed.run_noting (Receiver.cancelsAt_of_open hopen) s
      rwa [List.take_of_length_le (Nat.le_succ _)] at hrun
  · intro object live e text hobject htype he hvalue
    exact get_eq hc hobject htype he hvalue json

/-- The seed with one more notification for those who follow a network interface. -/
def renotified : Simulator :=
  push ⟨.interface .network, "notify", [⟨2, "true"⟩]⟩ seed

/-- Cancels at the second notification, and before the first one if it has got enough already. -/
def twoOnly : Receiver Nat where
  cancelled := fun got => 2 ≤ got
  receive := fun _ got => got + 1
  interrupt := id

/-- Of the three notifications that wait for a network interface, one who cancels at the second
gets two. -/
theorem monitor_delivers_renotified :
    (daemon.monitor ⟨.interface .network, 2⟩ "notify" true renotified).run twoOnly.noting (0, []) =
      (.ok (), renotified, 2,
        [⟨2, [⟨7, "\"ready\""⟩, ⟨5, "-3.1"⟩]⟩, ⟨2, [⟨0x20000001, "1"⟩]⟩]) ∧
    (daemon.monitor ⟨.interface .network, 2⟩ "notify" true renotified).run twoOnly.noting (2, []) =
      (.ok (), renotified, 2, []) := by
  have hreaches : Reaches seed renotified := Relation.ReflTransGen.single (Step.push _ _)
  let handle : ObjectHandle := ⟨.interface .network, 2⟩
  have hlive : ∃ object, renotified.object? handle.oid = some object ∧
      object.type = handle.type := ⟨_, rfl, rfl⟩
  have hd : (⟨⟨8, "notify", false, notificationUsage⟩, none⟩ : Declaration) ∈
      renotified.catalogue.of handle.type := by decide +kernel
  obtain ⟨hdelivers, -⟩ := monitor_delivers .seed hreaches hlive hd (by decide) true
  have hsent : ((renotified.waiting (.interface .network) "notify").map
      (·.sentBy ⟨.interface .network, 2⟩ true)).take 2 =
        [⟨2, [⟨7, "\"ready\""⟩, ⟨5, "-3.1"⟩]⟩, ⟨2, [⟨0x20000001, "1"⟩]⟩] := by decide +kernel
  constructor
  · refine ((hdelivers Nat twoOnly 0).1 2 ⟨?_, fun _ => ?_⟩).trans ?_
    · decide +kernel
    · decide +kernel
    · rw [hsent]
      rfl
  · exact (hdelivers Nat twoOnly 2).2.1 (by decide)

end Simulator

end TransponderShell
