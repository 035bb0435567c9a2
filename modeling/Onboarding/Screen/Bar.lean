/-
This file holds the bar at the top of every screen: the name of the service and
whether a token is at hand.
-/

import Onboarding.Screen.Paragraph

namespace Onboarding.Screen

/-- Draws the bar. -/
def drawBar (canvas : Canvas) (area : Area) (signedIn : Bool) : Canvas :=
  let service : Style := ⟨some .black, some .lightYellow, true⟩
  let status : Span :=
    if signedIn then ⟨"signed in", .colored .green⟩ else ⟨"guest", .colored .darkGray⟩
  drawLine canvas area .left [⟨" Swallowtail ", service⟩, ⟨"  ", .plain⟩, status]

end Onboarding.Screen
