/-
# `CertWatch.CheckCalls` — the check functions make finitely many calls, and never look at the shutdown event.

A task looks at the event once, before its check; from then on nothing that happens to the event reaches it.
-/
import CertWatch.CheckThread
import CertWatch.Lib.Trace

namespace CertWatch

open CertWatch.Lib

/-- A call of a check itself: any but the task's look at the shutdown event. -/
def CheckOp.OfCheck (o : CheckOp) : Prop := o ≠ .isSet

section

variable {α β : Type}

theorem finishes_checkCall {o : CheckOp} (h : o.OfCheck) : (checkCall o).Finishes CheckOp.OfCheck :=
  Prog.finishes_perform h

/-- A guarded call and what follows either outcome. -/
theorem finishes_guarded {o : CheckOp} {f : Except PyExc o.Ret → Check β} (h : o.OfCheck)
    (hf : ∀ r, (f r).Finishes CheckOp.OfCheck) : ((checkCall o).attempt.bind f).Finishes CheckOp.OfCheck :=
  (finishes_checkCall h).attempt.bind hf

theorem finishes_finallyClose {c : Connection} {p : Check α} (hp : p.Finishes CheckOp.OfCheck) :
    (finallyClose c p).Finishes CheckOp.OfCheck := by
  refine hp.attempt.bind fun r => ?_
  exact finishes_guarded (by nofun) fun _ => Prog.finishes_ofExcept r

theorem finishes_checkedAt : (isoZ <$> checkCall (.utcNow .checkedAt) : Check String).Finishes CheckOp.OfCheck := by
  rw [Prog.map_eq]
  exact (finishes_checkCall (by nofun)).bind fun _ => trivial

end

section

variable (rt : Runtime) (hostname : Json) (port : Int)

/-! ## `cert_check` -/

theorem finishes_loadCertificate (der : Option (List UInt8)) : (loadCertificate der).Finishes CheckOp.OfCheck :=
  (finishes_checkCall (by nofun)).bind fun _ => Prog.finishes_ofExcept _

theorem finishes_peerCertificate (c : Connection) : (peerCertificate hostname c).Finishes CheckOp.OfCheck := by
  refine (finishes_checkCall (by nofun)).bind fun _ => finishes_guarded (by nofun) fun der => ?_
  exact (finishes_checkCall (by nofun)).bind fun _ => Prog.finishes_ofExcept der

theorem finishes_buildResult (cert : Certificate) (checked_at : String) (state : ResultState) (trusted : Bool)
    (verify_code : Option Int) (error_reason : Option String) (hostname_matches_override : Option Bool) :
    (buildResult rt hostname port cert checked_at state trusted verify_code error_reason
      hostname_matches_override).Finishes CheckOp.OfCheck :=
  (finishes_checkCall (by nofun)).bind fun _ => Prog.finishes_ofExcept _

theorem finishes_verifiedResult (checked_at : String) :
    (verifiedResult rt hostname port checked_at).Finishes CheckOp.OfCheck := by
  refine (finishes_peerCertificate hostname .first).bind fun der => ?_
  refine (finishes_loadCertificate der).bind fun cert => ?_
  exact finishes_buildResult ..

theorem finishes_afterVerifiedResult (checked_at : String) (r : Except PyExc CertResult) :
    (afterVerifiedResult hostname port checked_at r).Finishes CheckOp.OfCheck := by
  unfold afterVerifiedResult
  split
  · trivial
  · split <;> trivial
  · trivial

theorem finishes_stageOne (checked_at : String) (handshake_timeout : PyFloat) :
    (stageOne rt hostname port checked_at handshake_timeout).Finishes CheckOp.OfCheck := by
  refine (finishes_checkCall (by nofun)).bind fun _ => finishes_finallyClose ?_
  refine (finishes_checkCall (by nofun)).bind fun _ => ?_
  exact (finishes_verifiedResult ..).attempt.bind fun r => finishes_afterVerifiedResult hostname port checked_at r

theorem finishes_recoverCertificate (checked_at verify_error : String) :
    (recoverCertificate hostname port checked_at verify_error).Finishes CheckOp.OfCheck := by
  refine (finishes_checkCall (by nofun)).bind fun _ => ?_
  refine (finishes_peerCertificate hostname .second).attempt.bind fun r => ?_
  split <;> trivial

theorem finishes_stageTwo (checked_at : String) (verify_code : Option Int) (verify_error : String)
    (connect_timeout handshake_timeout : PyFloat) :
    (stageTwo rt hostname port checked_at verify_code verify_error connect_timeout handshake_timeout).Finishes
      CheckOp.OfCheck := by
  refine finishes_guarded (by nofun) fun r => ?_
  split
  · trivial
  · trivial
  · refine (finishes_checkCall (by nofun)).bind fun _ => ?_
    refine (finishes_finallyClose (finishes_recoverCertificate ..)).bind fun recovered => ?_
    split
    · trivial
    · exact (finishes_loadCertificate _).bind fun cert => finishes_buildResult ..

theorem finishes_certCheck (connect_timeout handshake_timeout : PyFloat) :
    (certCheck rt hostname port connect_timeout handshake_timeout).Finishes CheckOp.OfCheck := by
  refine finishes_checkedAt.bind fun checked_at => ?_
  refine finishes_guarded (by nofun) fun r => ?_
  split
  · trivial
  · trivial
  · refine (finishes_stageOne ..).bind fun outcome => ?_
    split
    · trivial
    · exact finishes_stageTwo ..

end

section

variable (rt : Runtime) (ip : Json) (port : Int)

/-! ## `cert_check_with_discovery` -/

theorem finishes_parseCertificate (der : Option (List UInt8)) : (parseCertificate der).Finishes CheckOp.OfCheck := by
  unfold parseCertificate
  split
  · trivial
  · trivial
  · exact (finishes_checkCall (by nofun)).bind fun _ => trivial

theorem finishes_readCertificate (server_hostname : Json) :
    (readCertificate server_hostname).Finishes CheckOp.OfCheck := by
  refine (finishes_checkCall (by nofun)).bind fun _ => finishes_guarded (by nofun) fun r => ?_
  split
  · trivial
  · trivial
  · refine Prog.Finishes.bind ?_ finishes_parseCertificate
    exact finishes_guarded (by nofun) fun der => finishes_guarded (by nofun) fun _ => Prog.finishes_ofExcept der

theorem finishes_handshakeGetCert (server_hostname : Json) (connect_timeout handshake_timeout : PyFloat) :
    (handshakeGetCert ip port server_hostname connect_timeout handshake_timeout).Finishes CheckOp.OfCheck := by
  refine finishes_guarded (by nofun) fun r => ?_
  split
  · trivial
  · trivial
  · exact (finishes_checkCall (by nofun)).bind fun _ => finishes_finallyClose (finishes_readCertificate _)

theorem finishes_verifyHostname (canonical : String) : (verifyHostname canonical).Finishes CheckOp.OfCheck := by
  refine (finishes_checkCall (by nofun)).bind fun _ => Prog.Finishes.bind (Prog.Finishes.attempt ?_) fun r => ?_
  · exact (finishes_checkCall (by nofun)).bind fun _ => finishes_checkCall (by nofun)
  · split
    · trivial
    · split <;> trivial
    · trivial

theorem finishes_handshakeVerifyHostname (canonical : String) (connect_timeout handshake_timeout : PyFloat) :
    (handshakeVerifyHostname ip port canonical connect_timeout handshake_timeout).Finishes CheckOp.OfCheck := by
  refine finishes_guarded (by nofun) fun r => ?_
  split
  · trivial
  · trivial
  · exact (finishes_checkCall (by nofun)).bind fun _ => finishes_finallyClose (finishes_verifyHostname canonical)

theorem finishes_verifyChain (canonical : String) : (verifyChain canonical).Finishes CheckOp.OfCheck := by
  refine (finishes_checkCall (by nofun)).bind fun _ => finishes_guarded (by nofun) fun r => ?_
  split
  · exact finishes_guarded (by nofun) fun _ => trivial
  · split <;> trivial
  · trivial

theorem finishes_handshakeVerifyChain (canonical : String) (connect_timeout handshake_timeout : PyFloat) :
    (handshakeVerifyChain ip port canonical connect_timeout handshake_timeout).Finishes CheckOp.OfCheck := by
  refine finishes_guarded (by nofun) fun r => ?_
  split
  · trivial
  · trivial
  · exact (finishes_checkCall (by nofun)).bind fun _ => finishes_finallyClose (finishes_verifyChain canonical)

theorem finishes_resultWithCertData (status : CertStatus) (checked_at : String) (cert : Certificate)
    (canonical : Option String) (all_sans : List String) (hostname_matches chain_trusted : Option Bool)
    (chain_trust_reason error_message : Option String) :
    (resultWithCertData rt ip port status checked_at cert canonical all_sans hostname_matches chain_trusted
      chain_trust_reason error_message).Finishes CheckOp.OfCheck :=
  (finishes_checkCall (by nofun)).bind fun _ => Prog.finishes_ofExcept _

theorem finishes_checkCertificate (connect_timeout handshake_timeout : PyFloat) (threshold : Int)
    (checked_at : String) (cert : Certificate) :
    (checkCertificate rt ip port connect_timeout handshake_timeout threshold checked_at cert).Finishes
      CheckOp.OfCheck := by
  refine (Prog.finishes_ofExcept _).bind fun names => (finishes_checkCall (by nofun)).bind fun now => ?_
  split
  · exact finishes_resultWithCertData ..
  · refine (finishes_handshakeVerifyHostname ..).bind fun _ => ?_
    refine (finishes_handshakeVerifyChain ..).bind fun _ => ?_
    exact finishes_resultWithCertData ..

theorem finishes_certCheckWithDiscovery (connect_timeout handshake_timeout : PyFloat) (threshold : Int) :
    (certCheckWithDiscovery rt ip port connect_timeout handshake_timeout threshold).Finishes CheckOp.OfCheck := by
  refine finishes_checkedAt.bind fun checked_at => ?_
  refine (finishes_handshakeGetCert ..).bind fun handshake => ?_
  split
  · trivial
  · exact finishes_checkCertificate ..

/-- **Neither check looks at the shutdown event, and both come to an end.** -/
theorem finishes_runCheck (settings : CheckSettings) (entry : HostEntry) :
    (runCheck rt settings entry).Finishes CheckOp.OfCheck := by
  unfold runCheck
  split
  · exact (finishes_certCheckWithDiscovery ..).bind fun _ => trivial
  · exact (finishes_certCheck ..).bind fun _ => trivial

end

end CertWatch
