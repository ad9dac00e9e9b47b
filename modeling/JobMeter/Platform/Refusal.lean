import JobMeter.Failure

/-!
# Failed requests as failures of the platform

A request to the platform that fails is reported as a failure of the platform, and the status of
the answer tells which one.  Failures of other kinds stay as they are.
-/

namespace JobMeter.Platform

/-- A failed request as a failure of the platform. -/
def refusal (f : Failure) : Failure :=
  match f.kind with
  | .request (.status (some 401)) => ⟨.platform .token, text "Invalid token.", f.kind⟩
  | .request (.status (some 403)) =>
    ⟨.platform .token,
      text "Provided token has not enough permissions or has reached rate-limit.", f.kind⟩
  | .request (.status (some 404)) => ⟨.platform .notFound, f.message, f.kind⟩
  | .request _ => ⟨.platform .api, [], f.kind⟩
  | _ => f

end JobMeter.Platform
