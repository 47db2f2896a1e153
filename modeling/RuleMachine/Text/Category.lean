import RuleMachine.Text.CodePoints

/-!
# General categories

The general category of every code point, in two letters, and the names that the categories and
their groups go by. `Cn` is the category of code points that stand for no character.
-/

namespace RuleMachine.Text

/-- Every code point in order, as runs of one general category. -/
def categories : List CodePoints.Run := CodePoints.ofRuns
  "Cc:20 Zs:1 Po:3 Sc:1 Po:3 Ps:1 Pe:1 Po:1 Sm:1 Po:1 Pd:1 Po:2 Nd:a Po:2 Sm:3 Po:2 Lu:1a Ps:1 Po:1
  Pe:1 Sk:1 Pc:1 Sk:1 Ll:1a Ps:1 Sm:1 Pe:1 Sm:1 Cc:21 Zs:1 Po:1 Sc:4 So:1 Po:1 Sk:1 So:1 Lo:1 Pi:1
  Sm:1 Cf:1 So:1 Sk:1 So:1 Sm:1 No:2 Sk:1 Ll:1 Po:2 Sk:1 No:1 Lo:1 Pf:1 No:3 Po:1 Lu:17 Sm:1 Lu:7
  Ll:18 Sm:1 Ll:8 Lu:1 Ll:1 Lu:1 Ll:1 Lu:1 Ll:1 Lu:1 Ll:1 Lu:1 Ll:1 Lu:1 Ll:1 Lu:1 Ll:1 Lu:1 Ll:1
  Lu:1 Ll:1 Lu:1 Ll:1 Lu:1 Ll:1 Lu:1 Ll:1 Lu:1 Ll:1 Lu:1 Ll:1 Lu:1 Ll:1 Lu:1 Ll:1 Lu:1 Ll:1 Lu:1
  Ll:1 Lu:1 Ll:1 Lu:1 Ll:1 Lu:1 Ll:1 Lu:1 Ll:1 Lu:1 Ll:1 Lu:1 Ll:1 Lu:1 Ll:1 Lu:1 Ll:1 Lu:1 Ll:1
  Lu:1 Ll:2 Lu:1 Ll:1 Lu:1 Ll:1 Lu:1 Ll:1 Lu:1 Ll:1 Lu:1 Ll:1 Lu:1 Ll:1 Lu:1 Ll:1 Lu:1 Ll:2 Lu:1
  Ll:1 Lu:1 Ll:1 Lu:1 Ll:1 Lu:1 Ll:1 Lu:1 Ll:1 Lu:1 Ll:1 Lu:1 Ll:1 Lu:1 Ll:1 Lu:1 Ll:1 Lu:1 Ll:1
  Lu:1 Ll:1 Lu:1 Ll:1 Lu:1 Ll:1 Lu:1 Ll:1 Lu:1 Ll:1 Lu:1 Ll:1 Lu:1 Ll:1 Lu:1 Ll:1 Lu:1 Ll:1 Lu:1
  Ll:1 Lu:1 Ll:1 Lu:1 Ll:1 Lu:1 Ll:1 Lu:2 Ll:1 Lu:1 Ll:1 Lu:1 Ll:3 Lu:2 Ll:1 Lu:1 Ll:1 Lu:2 Ll:1
  Lu:3 Ll:2 Lu:4 Ll:1 Lu:2 Ll:1 Lu:3 Ll:3 Lu:2 Ll:1 Lu:2 Ll:1 Lu:1 Ll:1 Lu:1 Ll:1 Lu:2 Ll:1 Lu:1
  Ll:2 Lu:1 Ll:1 Lu:2 Ll:1 Lu:3 Ll:1 Lu:1 Ll:1 Lu:2 Ll:2 Lo:1 Lu:1 Ll:3 Lo:4 Lu:1 Lt:1 Ll:1 Lu:1
  Lt:1 Ll:1 Lu:1 Lt:1 Ll:1 Lu:1 Ll:1 Lu:1 Ll:1 Lu:1 Ll:1 Lu:1 Ll:1 Lu:1 Ll:1 Lu:1 Ll:1 Lu:1 Ll:1
  Lu:1 Ll:2 Lu:1 Ll:1 Lu:1 Ll:1 Lu:1 Ll:1 Lu:1 Ll:1 Lu:1 Ll:1 Lu:1 Ll:1 Lu:1 Ll:1 Lu:1 Ll:1 Lu:1
  Ll:2 Lu:1 Lt:1 Ll:1 Lu:1 Ll:1 Lu:3 Ll:1 Lu:1 Ll:1 Lu:1 Ll:1 Lu:1 Ll:1 Lu:1 Ll:1 Lu:1 Ll:1 Lu:1
  Ll:1 Lu:1 Ll:1 Lu:1 Ll:1 Lu:1 Ll:1 Lu:1 Ll:1 Lu:1 Ll:1 Lu:1 Ll:1 Lu:1 Ll:1 Lu:1 Ll:1 Lu:1 Ll:1
  Lu:1 Ll:1 Lu:1 Ll:1 Lu:1 Ll:1 Lu:1 Ll:1 Lu:1 Ll:1 Lu:1 Ll:1 Lu:1 Ll:1 Lu:1 Ll:1 Lu:1 Ll:1 Lu:1
  Ll:1 Lu:1 Ll:1 Lu:1 Ll:1 Lu:1 Ll:1 Lu:1 Ll:7 Lu:2 Ll:1 Lu:2 Ll:2 Lu:1 Ll:1 Lu:4 Ll:1 Lu:1 Ll:1
  Lu:1 Ll:1 Lu:1 Ll:1 Lu:1 Ll:45 Lo:2 Ll:1a Lm:12 Sk:4 Lm:c Sk:e Lm:5 Sk:7 Lm:1 Sk:1 Lm:1 Sk:11
  Mn:70 Lu:1 Ll:1 Lu:1 Ll:1 Lm:1 Sk:1 Lu:1 Ll:1 Cn:2 Lm:1 Ll:3 Po:1 Lu:1 Cn:4 Sk:2 Lu:1 Po:1 Lu:3
  Cn:1 Lu:1 Cn:1 Lu:2 Ll:1 Lu:11 Cn:1 Lu:9 Ll:23 Lu:1 Ll:2 Lu:3 Ll:3 Lu:1 Ll:1 Lu:1 Ll:1 Lu:1 Ll:1
  Lu:1 Ll:1 Lu:1 Ll:1 Lu:1 Ll:1 Lu:1 Ll:1 Lu:1 Ll:1 Lu:1 Ll:1 Lu:1 Ll:1 Lu:1 Ll:1 Lu:1 Ll:5 Lu:1
  Ll:1 Sm:1 Lu:1 Ll:1 Lu:2 Ll:2 Lu:33 Ll:30 Lu:1 Ll:1 Lu:1 Ll:1 Lu:1 Ll:1 Lu:1 Ll:1 Lu:1 Ll:1 Lu:1
  Ll:1 Lu:1 Ll:1 Lu:1 Ll:1 Lu:1 Ll:1 Lu:1 Ll:1 Lu:1 Ll:1 Lu:1 Ll:1 Lu:1 Ll:1 Lu:1 Ll:1 Lu:1 Ll:1
  Lu:1 Ll:1 Lu:1 Ll:1 So:1 Mn:5 Me:2 Lu:1 Ll:1 Lu:1 Ll:1 Lu:1 Ll:1 Lu:1 Ll:1 Lu:1 Ll:1 Lu:1 Ll:1
  Lu:1 Ll:1 Lu:1 Ll:1 Lu:1 Ll:1 Lu:1 Ll:1 Lu:1 Ll:1 Lu:1 Ll:1 Lu:1 Ll:1 Lu:1 Ll:1 Lu:1 Ll:1 Lu:1
  Ll:1 Lu:1 Ll:1 Lu:1 Ll:1 Lu:1 Ll:1 Lu:1 Ll:1 Lu:1 Ll:1 Lu:1 Ll:1 Lu:1 Ll:1 Lu:1 Ll:1 Lu:1 Ll:1
  Lu:1 Ll:1 Lu:1 Ll:1 Lu:2 Ll:1 Lu:1 Ll:1 Lu:1 Ll:1 Lu:1 Ll:1 Lu:1 Ll:1 Lu:1 Ll:1 Lu:1 Ll:2 Lu:1
  Ll:1 Lu:1 Ll:1 Lu:1 Ll:1 Lu:1 Ll:1 Lu:1 Ll:1 Lu:1 Ll:1 Lu:1 Ll:1 Lu:1 Ll:1 Lu:1 Ll:1 Lu:1 Ll:1
  Lu:1 Ll:1 Lu:1 Ll:1 Lu:1 Ll:1 Lu:1 Ll:1 Lu:1 Ll:1 Lu:1 Ll:1 Lu:1 Ll:1 Lu:1 Ll:1 Lu:1 Ll:1 Lu:1
  Ll:1 Lu:1 Ll:1 Lu:1 Ll:1 Lu:1 Ll:1 Lu:1 Ll:1 Lu:1 Ll:1 Lu:1 Ll:1 Lu:1 Ll:1 Lu:1 Ll:1 Lu:1 Ll:1
  Lu:1 Ll:1 Lu:1 Ll:1 Lu:1 Ll:1 Lu:1 Ll:1 Lu:1 Ll:1 Lu:1 Ll:1 Lu:1 Ll:1 Lu:1 Ll:1 Lu:1 Ll:1 Lu:1
  Ll:1 Lu:1 Ll:1 Lu:1 Ll:1 Lu:1 Ll:1 Lu:1 Ll:1 Lu:1 Ll:1 Lu:1 Ll:1 Lu:1 Ll:1 Lu:1 Ll:1 Lu:1 Ll:1
  Cn:1 Lu:26 Cn:2 Lm:1 Po:6 Ll:29 Po:1 Pd:1 Cn:2 So:2 Sc:1 Cn:1 Mn:2d Pd:1 Mn:1 Po:1 Mn:2 Po:1
  Mn:2 Po:1 Mn:1 Cn:8 Lo:1b Cn:4 Lo:4 Po:2 Cn:b Cf:6 Sm:3 Po:2 Sc:1 Po:2 So:2 Mn:b Po:1 Cf:1 Po:3
  Lo:20 Lm:1 Lo:a Mn:15 Nd:a Po:4 Lo:2 Mn:1 Lo:63 Po:1 Lo:1 Mn:7 Cf:1 So:1 Mn:6 Lm:2 Mn:2 So:1
  Mn:4 Lo:2 Nd:a Lo:3 So:2 Lo:1 Po:e Cn:1 Cf:1 Lo:1 Mn:1 Lo:1e Mn:1b Cn:2 Lo:59 Mn:b Lo:1 Cn:e
  Nd:a Lo:21 Mn:9 Lm:2 So:1 Po:3 Lm:1 Cn:2 Mn:1 Sc:2 Lo:16 Mn:4 Lm:1 Mn:9 Lm:1 Mn:3 Lm:1 Mn:5 Cn:2
  Po:f Cn:1 Lo:19 Mn:3 Cn:2 Po:1 Cn:1 Lo:b Cn:5 Lo:18 Sk:1 Lo:6 Cn:1 Cf:2 Cn:5 Mn:9 Lo:29 Lm:1
  Mn:18 Cf:1 Mn:20 Mc:1 Lo:36 Mn:1 Mc:1 Mn:1 Lo:1 Mc:3 Mn:8 Mc:4 Mn:1 Mc:2 Lo:1 Mn:7 Lo:a Mn:2
  Po:2 Nd:a Po:1 Lm:1 Lo:f Mn:1 Mc:2 Cn:1 Lo:8 Cn:2 Lo:2 Cn:2 Lo:16 Cn:1 Lo:7 Cn:1 Lo:1 Cn:3 Lo:4
  Cn:2 Mn:1 Lo:1 Mc:3 Mn:4 Cn:2 Mc:2 Cn:2 Mc:2 Mn:1 Lo:1 Cn:8 Mc:1 Cn:4 Lo:2 Cn:1 Lo:3 Mn:2 Cn:2
  Nd:a Lo:2 Sc:2 No:6 So:1 Sc:1 Lo:1 Po:1 Mn:1 Cn:2 Mn:2 Mc:1 Cn:1 Lo:6 Cn:4 Lo:2 Cn:2 Lo:16 Cn:1
  Lo:7 Cn:1 Lo:2 Cn:1 Lo:2 Cn:1 Lo:2 Cn:2 Mn:1 Cn:1 Mc:3 Mn:2 Cn:4 Mn:2 Cn:2 Mn:3 Cn:3 Mn:1 Cn:7
  Lo:4 Cn:1 Lo:1 Cn:7 Nd:a Mn:2 Lo:3 Mn:1 Po:1 Cn:a Mn:2 Mc:1 Cn:1 Lo:9 Cn:1 Lo:3 Cn:1 Lo:16 Cn:1
  Lo:7 Cn:1 Lo:2 Cn:1 Lo:5 Cn:2 Mn:1 Lo:1 Mc:3 Mn:5 Cn:1 Mn:2 Mc:1 Cn:1 Mc:2 Mn:1 Cn:2 Lo:1 Cn:f
  Lo:2 Mn:2 Cn:2 Nd:a Po:1 Sc:1 Cn:7 Lo:1 Mn:6 Cn:1 Mn:1 Mc:2 Cn:1 Lo:8 Cn:2 Lo:2 Cn:2 Lo:16 Cn:1
  Lo:7 Cn:1 Lo:2 Cn:1 Lo:5 Cn:2 Mn:1 Lo:1 Mc:1 Mn:1 Mc:1 Mn:4 Cn:2 Mc:2 Cn:2 Mc:2 Mn:1 Cn:7 Mn:2
  Mc:1 Cn:4 Lo:2 Cn:1 Lo:3 Mn:2 Cn:2 Nd:a So:1 Lo:1 No:6 Cn:a Mn:1 Lo:1 Cn:1 Lo:6 Cn:3 Lo:3 Cn:1
  Lo:4 Cn:3 Lo:2 Cn:1 Lo:1 Cn:1 Lo:2 Cn:3 Lo:2 Cn:3 Lo:3 Cn:3 Lo:c Cn:4 Mc:2 Mn:1 Mc:2 Cn:3 Mc:3
  Cn:1 Mc:3 Mn:1 Cn:2 Lo:1 Cn:6 Mc:1 Cn:e Nd:a No:3 So:6 Sc:1 So:1 Cn:5 Mn:1 Mc:3 Mn:1 Lo:8 Cn:1
  Lo:3 Cn:1 Lo:17 Cn:1 Lo:10 Cn:2 Mn:1 Lo:1 Mn:3 Mc:4 Cn:1 Mn:3 Cn:1 Mn:4 Cn:7 Mn:2 Cn:1 Lo:3 Cn:2
  Lo:1 Cn:2 Lo:2 Mn:2 Cn:2 Nd:a Cn:7 Po:1 No:7 So:1 Lo:1 Mn:1 Mc:2 Po:1 Lo:8 Cn:1 Lo:3 Cn:1 Lo:17
  Cn:1 Lo:a Cn:1 Lo:5 Cn:2 Mn:1 Lo:1 Mc:1 Mn:1 Mc:5 Cn:1 Mn:1 Mc:2 Cn:1 Mc:2 Mn:2 Cn:7 Mc:2 Cn:6
  Lo:2 Cn:1 Lo:2 Mn:2 Cn:2 Nd:a Cn:1 Lo:2 Mc:1 Cn:c Mn:2 Mc:2 Lo:9 Cn:1 Lo:3 Cn:1 Lo:29 Mn:2 Lo:1
  Mc:3 Mn:4 Cn:1 Mc:3 Cn:1 Mc:3 Mn:1 Lo:1 So:1 Cn:4 Lo:3 Mc:1 No:7 Lo:3 Mn:2 Cn:2 Nd:a No:9 So:1
  Lo:6 Cn:1 Mn:1 Mc:2 Cn:1 Lo:12 Cn:3 Lo:18 Cn:1 Lo:9 Cn:1 Lo:1 Cn:2 Lo:7 Cn:3 Mn:1 Cn:4 Mc:3 Mn:3
  Cn:1 Mn:1 Cn:1 Mc:8 Cn:6 Nd:a Cn:2 Mc:2 Po:1 Cn:c Lo:30 Mn:1 Lo:2 Mn:7 Cn:4 Sc:1 Lo:6 Lm:1 Mn:8
  Po:1 Nd:a Po:2 Cn:25 Lo:2 Cn:1 Lo:1 Cn:1 Lo:5 Cn:1 Lo:18 Cn:1 Lo:1 Cn:1 Lo:a Mn:1 Lo:2 Mn:9 Lo:1
  Cn:2 Lo:5 Cn:1 Lm:1 Cn:1 Mn:7 Cn:1 Nd:a Cn:2 Lo:4 Cn:20 Lo:1 So:3 Po:f So:1 Po:1 So:3 Mn:2 So:6
  Nd:a No:a So:1 Mn:1 So:1 Mn:1 So:1 Mn:1 Ps:1 Pe:1 Ps:1 Pe:1 Mc:2 Lo:8 Cn:1 Lo:24 Cn:4 Mn:e Mc:1
  Mn:5 Po:1 Mn:2 Lo:5 Mn:b Cn:1 Mn:24 Cn:1 So:8 Mn:1 So:6 Cn:1 So:2 Po:5 So:4 Po:2 Cn:25 Lo:2b
  Mc:2 Mn:4 Mc:1 Mn:6 Mc:1 Mn:2 Mc:2 Mn:2 Lo:1 Nd:a Po:6 Lo:6 Mc:2 Mn:2 Lo:4 Mn:3 Lo:1 Mc:3 Lo:2
  Mc:7 Lo:3 Mn:4 Lo:d Mn:1 Mc:2 Mn:2 Mc:6 Mn:1 Lo:1 Mc:1 Nd:a Mc:3 Mn:1 So:2 Lu:26 Cn:1 Lu:1 Cn:5
  Lu:1 Cn:2 Ll:2b Po:1 Lm:1 Ll:3 Lo:149 Cn:1 Lo:4 Cn:2 Lo:7 Cn:1 Lo:1 Cn:1 Lo:4 Cn:2 Lo:29 Cn:1
  Lo:4 Cn:2 Lo:21 Cn:1 Lo:4 Cn:2 Lo:7 Cn:1 Lo:1 Cn:1 Lo:4 Cn:2 Lo:f Cn:1 Lo:39 Cn:1 Lo:4 Cn:2
  Lo:43 Cn:2 Mn:3 Po:9 No:14 Cn:3 Lo:10 So:a Cn:6 Lu:56 Cn:2 Ll:6 Cn:2 Pd:1 Lo:26c So:1 Po:1 Lo:11
  Zs:1 Lo:1a Ps:1 Pe:1 Cn:3 Lo:4b Po:3 Nl:3 Lo:8 Cn:7 Lo:12 Mn:3 Mc:1 Cn:9 Lo:13 Mn:2 Mc:1 Po:2
  Cn:9 Lo:12 Mn:2 Cn:c Lo:d Cn:1 Lo:3 Cn:1 Mn:2 Cn:c Lo:34 Mn:2 Mc:1 Mn:7 Mc:8 Mn:1 Mc:2 Mn:b Po:3
  Lm:1 Po:3 Sc:1 Lo:1 Mn:1 Cn:2 Nd:a Cn:6 No:a Cn:6 Po:6 Pd:1 Po:4 Mn:3 Cf:1 Mn:1 Nd:a Cn:6 Lo:23
  Lm:1 Lo:35 Cn:7 Lo:5 Mn:2 Lo:22 Mn:1 Lo:1 Cn:5 Lo:46 Cn:a Lo:1f Cn:1 Mn:3 Mc:4 Mn:2 Mc:3 Cn:4
  Mc:2 Mn:1 Mc:6 Mn:3 Cn:4 So:1 Cn:3 Po:2 Nd:a Lo:1e Cn:2 Lo:5 Cn:b Lo:2c Cn:4 Lo:1a Cn:6 Nd:a
  No:1 Cn:3 So:22 Lo:17 Mn:2 Mc:2 Mn:1 Cn:2 Po:2 Lo:35 Mc:1 Mn:1 Mc:1 Mn:7 Cn:1 Mn:1 Mc:1 Mn:1
  Mc:2 Mn:8 Mc:6 Mn:a Cn:2 Mn:1 Nd:a Cn:6 Nd:a Cn:6 Po:7 Lm:1 Po:6 Cn:2 Mn:e Me:1 Mn:10 Cn:31 Mn:4
  Mc:1 Lo:2f Mn:1 Mc:1 Mn:5 Mc:1 Mn:1 Mc:5 Mn:1 Mc:2 Lo:8 Cn:1 Po:2 Nd:a Po:7 So:a Mn:9 So:9 Po:3
  Mn:2 Mc:1 Lo:1e Mc:1 Mn:4 Mc:2 Mn:2 Mc:1 Mn:3 Lo:2 Nd:a Lo:2c Mn:1 Mc:1 Mn:2 Mc:3 Mn:1 Mc:1 Mn:3
  Mc:2 Cn:8 Po:4 Lo:24 Mc:8 Mn:8 Mc:2 Mn:2 Cn:3 Po:5 Nd:a Cn:3 Lo:3 Nd:a Lo:1e Lm:6 Po:2 Ll:9 Lu:1
  Ll:1 Cn:5 Lu:2b Cn:2 Lu:3 Po:8 Cn:8 Mn:3 Po:1 Mn:d Mc:1 Mn:7 Lo:4 Mn:1 Lo:6 Mn:1 Lo:2 Mc:1 Mn:2
  Lo:1 Cn:5 Ll:2c Lm:3f Ll:d Lm:1 Ll:22 Lm:25 Mn:40 Lu:1 Ll:1 Lu:1 Ll:1 Lu:1 Ll:1 Lu:1 Ll:1 Lu:1
  Ll:1 Lu:1 Ll:1 Lu:1 Ll:1 Lu:1 Ll:1 Lu:1 Ll:1 Lu:1 Ll:1 Lu:1 Ll:1 Lu:1 Ll:1 Lu:1 Ll:1 Lu:1 Ll:1
  Lu:1 Ll:1 Lu:1 Ll:1 Lu:1 Ll:1 Lu:1 Ll:1 Lu:1 Ll:1 Lu:1 Ll:1 Lu:1 Ll:1 Lu:1 Ll:1 Lu:1 Ll:1 Lu:1
  Ll:1 Lu:1 Ll:1 Lu:1 Ll:1 Lu:1 Ll:1 Lu:1 Ll:1 Lu:1 Ll:1 Lu:1 Ll:1 Lu:1 Ll:1 Lu:1 Ll:1 Lu:1 Ll:1
  Lu:1 Ll:1 Lu:1 Ll:1 Lu:1 Ll:1 Lu:1 Ll:1 Lu:1 Ll:1 Lu:1 Ll:1 Lu:1 Ll:1 Lu:1 Ll:1 Lu:1 Ll:1 Lu:1
  Ll:1 Lu:1 Ll:1 Lu:1 Ll:1 Lu:1 Ll:1 Lu:1 Ll:1 Lu:1 Ll:1 Lu:1 Ll:1 Lu:1 Ll:1 Lu:1 Ll:1 Lu:1 Ll:1
  Lu:1 Ll:1 Lu:1 Ll:1 Lu:1 Ll:1 Lu:1 Ll:1 Lu:1 Ll:1 Lu:1 Ll:1 Lu:1 Ll:1 Lu:1 Ll:1 Lu:1 Ll:1 Lu:1
  Ll:1 Lu:1 Ll:1 Lu:1 Ll:1 Lu:1 Ll:1 Lu:1 Ll:1 Lu:1 Ll:1 Lu:1 Ll:1 Lu:1 Ll:1 Lu:1 Ll:1 Lu:1 Ll:1
  Lu:1 Ll:1 Lu:1 Ll:1 Lu:1 Ll:1 Lu:1 Ll:9 Lu:1 Ll:1 Lu:1 Ll:1 Lu:1 Ll:1 Lu:1 Ll:1 Lu:1 Ll:1 Lu:1
  Ll:1 Lu:1 Ll:1 Lu:1 Ll:1 Lu:1 Ll:1 Lu:1 Ll:1 Lu:1 Ll:1 Lu:1 Ll:1 Lu:1 Ll:1 Lu:1 Ll:1 Lu:1 Ll:1
  Lu:1 Ll:1 Lu:1 Ll:1 Lu:1 Ll:1 Lu:1 Ll:1 Lu:1 Ll:1 Lu:1 Ll:1 Lu:1 Ll:1 Lu:1 Ll:1 Lu:1 Ll:1 Lu:1
  Ll:1 Lu:1 Ll:1 Lu:1 Ll:1 Lu:1 Ll:1 Lu:1 Ll:1 Lu:1 Ll:1 Lu:1 Ll:1 Lu:1 Ll:1 Lu:1 Ll:1 Lu:1 Ll:1
  Lu:1 Ll:1 Lu:1 Ll:1 Lu:1 Ll:1 Lu:1 Ll:1 Lu:1 Ll:1 Lu:1 Ll:1 Lu:1 Ll:1 Lu:1 Ll:1 Lu:1 Ll:1 Lu:1
  Ll:1 Lu:1 Ll:1 Lu:1 Ll:1 Lu:1 Ll:1 Lu:1 Ll:1 Lu:1 Ll:9 Lu:8 Ll:6 Cn:2 Lu:6 Cn:2 Ll:8 Lu:8 Ll:8
  Lu:8 Ll:6 Cn:2 Lu:6 Cn:2 Ll:8 Cn:1 Lu:1 Cn:1 Lu:1 Cn:1 Lu:1 Cn:1 Lu:1 Ll:8 Lu:8 Ll:e Cn:2 Ll:8
  Lt:8 Ll:8 Lt:8 Ll:8 Lt:8 Ll:5 Cn:1 Ll:2 Lu:4 Lt:1 Sk:1 Ll:1 Sk:3 Ll:3 Cn:1 Ll:2 Lu:4 Lt:1 Sk:3
  Ll:4 Cn:2 Ll:2 Lu:4 Cn:1 Sk:3 Ll:8 Lu:5 Sk:3 Cn:2 Ll:3 Cn:1 Ll:2 Lu:4 Lt:1 Sk:2 Cn:1 Zs:b Cf:5
  Pd:6 Po:2 Pi:1 Pf:1 Ps:1 Pi:2 Pf:1 Ps:1 Pi:1 Po:8 Zl:1 Zp:1 Cf:5 Zs:1 Po:9 Pi:1 Pf:1 Po:4 Pc:2
  Po:3 Sm:1 Ps:1 Pe:1 Po:b Sm:1 Po:1 Pc:1 Po:a Zs:1 Cf:5 Cn:1 Cf:a No:1 Lm:1 Cn:2 No:6 Sm:3 Ps:1
  Pe:1 Lm:1 No:a Sm:3 Ps:1 Pe:1 Cn:1 Lm:d Cn:3 Sc:21 Cn:f Mn:d Me:4 Mn:1 Me:3 Mn:c Cn:f So:2 Lu:1
  So:4 Lu:1 So:2 Ll:1 Lu:3 Ll:2 Lu:3 Ll:1 So:1 Lu:1 So:2 Sm:1 Lu:5 So:6 Lu:1 So:1 Lu:1 So:1 Lu:1
  So:1 Lu:4 So:1 Ll:1 Lu:4 Ll:1 Lo:4 Ll:1 So:2 Ll:2 Lu:2 Sm:5 Lu:1 Ll:4 So:1 Sm:1 So:2 Ll:1 So:1
  No:10 Nl:23 Lu:1 Ll:1 Nl:4 No:1 So:2 Cn:4 Sm:5 So:5 Sm:2 So:4 Sm:1 So:2 Sm:1 So:2 Sm:1 So:7 Sm:1
  So:1f Sm:2 So:2 Sm:1 So:1 Sm:1 So:1f Sm:10c So:8 Ps:1 Pe:1 Ps:1 Pe:1 So:14 Sm:2 So:7 Ps:1 Pe:1
  So:51 Sm:1 So:1e Sm:19 So:28 Sm:6 So:48 Cn:16 So:b Cn:15 No:3c So:4e No:16 So:b7 Sm:1 So:9 Sm:1
  So:36 Sm:8 So:6f Sm:1 So:f8 Ps:1 Pe:1 Ps:1 Pe:1 Ps:1 Pe:1 Ps:1 Pe:1 Ps:1 Pe:1 Ps:1 Pe:1 Ps:1
  Pe:1 No:1e So:2c Sm:5 Ps:1 Pe:1 Sm:1f Ps:1 Pe:1 Ps:1 Pe:1 Ps:1 Pe:1 Ps:1 Pe:1 Ps:1 Pe:1 Sm:10
  So:100 Sm:83 Ps:1 Pe:1 Ps:1 Pe:1 Ps:1 Pe:1 Ps:1 Pe:1 Ps:1 Pe:1 Ps:1 Pe:1 Ps:1 Pe:1 Ps:1 Pe:1
  Ps:1 Pe:1 Ps:1 Pe:1 Ps:1 Pe:1 Sm:3f Ps:1 Pe:1 Ps:1 Pe:1 Sm:20 Ps:1 Pe:1 Sm:102 So:30 Sm:15 So:2
  Sm:6 So:27 Cn:2 So:20 Cn:1 So:69 Lu:30 Ll:30 Lu:1 Ll:1 Lu:3 Ll:2 Lu:1 Ll:1 Lu:1 Ll:1 Lu:1 Ll:1
  Lu:4 Ll:1 Lu:1 Ll:2 Lu:1 Ll:6 Lm:2 Lu:3 Ll:1 Lu:1 Ll:1 Lu:1 Ll:1 Lu:1 Ll:1 Lu:1 Ll:1 Lu:1 Ll:1
  Lu:1 Ll:1 Lu:1 Ll:1 Lu:1 Ll:1 Lu:1 Ll:1 Lu:1 Ll:1 Lu:1 Ll:1 Lu:1 Ll:1 Lu:1 Ll:1 Lu:1 Ll:1 Lu:1
  Ll:1 Lu:1 Ll:1 Lu:1 Ll:1 Lu:1 Ll:1 Lu:1 Ll:1 Lu:1 Ll:1 Lu:1 Ll:1 Lu:1 Ll:1 Lu:1 Ll:1 Lu:1 Ll:1
  Lu:1 Ll:1 Lu:1 Ll:1 Lu:1 Ll:1 Lu:1 Ll:1 Lu:1 Ll:1 Lu:1 Ll:1 Lu:1 Ll:1 Lu:1 Ll:1 Lu:1 Ll:1 Lu:1
  Ll:1 Lu:1 Ll:1 Lu:1 Ll:1 Lu:1 Ll:1 Lu:1 Ll:1 Lu:1 Ll:1 Lu:1 Ll:1 Lu:1 Ll:1 Lu:1 Ll:1 Lu:1 Ll:1
  Lu:1 Ll:1 Lu:1 Ll:1 Lu:1 Ll:1 Lu:1 Ll:1 Lu:1 Ll:1 Lu:1 Ll:2 So:6 Lu:1 Ll:1 Lu:1 Ll:1 Mn:3 Lu:1
  Ll:1 Cn:5 Po:4 No:1 Po:2 Ll:26 Cn:1 Ll:1 Cn:5 Ll:1 Cn:2 Lo:38 Cn:7 Lm:1 Po:1 Cn:e Mn:1 Lo:17
  Cn:9 Lo:7 Cn:1 Lo:7 Cn:1 Lo:7 Cn:1 Lo:7 Cn:1 Lo:7 Cn:1 Lo:7 Cn:1 Lo:7 Cn:1 Lo:7 Cn:1 Mn:20 Po:2
  Pi:1 Pf:1 Pi:1 Pf:1 Po:3 Pi:1 Pf:1 Po:1 Pi:1 Pf:1 Po:9 Pd:1 Po:2 Pd:1 Po:1 Pi:1 Pf:1 Po:2 Pi:1
  Pf:1 Ps:1 Pe:1 Ps:1 Pe:1 Ps:1 Pe:1 Ps:1 Pe:1 Po:5 Lm:1 Po:a Pd:2 Po:4 Pd:1 Po:1 Ps:1 Po:d So:2
  Po:3 Ps:1 Pe:1 Ps:1 Pe:1 Ps:1 Pe:1 Ps:1 Pe:1 Pd:1 Cn:22 So:1a Cn:1 So:59 Cn:c So:d6 Cn:1a So:10
  Zs:1 Po:3 So:1 Lm:1 Lo:1 Nl:1 Ps:1 Pe:1 Ps:1 Pe:1 Ps:1 Pe:1 Ps:1 Pe:1 Ps:1 Pe:1 So:2 Ps:1 Pe:1
  Ps:1 Pe:1 Ps:1 Pe:1 Ps:1 Pe:1 Pd:1 Ps:1 Pe:2 So:1 Nl:9 Mn:4 Mc:2 Pd:1 Lm:5 So:2 Nl:3 Lm:1 Lo:1
  Po:1 So:2 Cn:1 Lo:56 Cn:2 Mn:2 Sk:2 Lm:2 Lo:1 Pd:1 Lo:5a Po:1 Lm:3 Lo:1 Cn:5 Lo:2b Cn:1 Lo:5e
  Cn:1 So:2 No:4 So:a Lo:20 So:26 Cn:9 So:1 Lo:10 So:1f Cn:1 No:a So:1e No:8 So:1 No:f So:20 No:a
  So:27 No:f So:140 Lo:19c0 So:40 Lo:5215 Lm:1 Lo:477 Cn:3 So:37 Cn:9 Lo:28 Lm:6 Po:2 Lo:10c Lm:1
  Po:3 Lo:10 Nd:a Lo:2 Cn:14 Lu:1 Ll:1 Lu:1 Ll:1 Lu:1 Ll:1 Lu:1 Ll:1 Lu:1 Ll:1 Lu:1 Ll:1 Lu:1 Ll:1
  Lu:1 Ll:1 Lu:1 Ll:1 Lu:1 Ll:1 Lu:1 Ll:1 Lu:1 Ll:1 Lu:1 Ll:1 Lu:1 Ll:1 Lu:1 Ll:1 Lu:1 Ll:1 Lu:1
  Ll:1 Lu:1 Ll:1 Lu:1 Ll:1 Lu:1 Ll:1 Lu:1 Ll:1 Lu:1 Ll:1 Lu:1 Ll:1 Lo:1 Mn:1 Me:3 Po:1 Mn:a Po:1
  Lm:1 Lu:1 Ll:1 Lu:1 Ll:1 Lu:1 Ll:1 Lu:1 Ll:1 Lu:1 Ll:1 Lu:1 Ll:1 Lu:1 Ll:1 Lu:1 Ll:1 Lu:1 Ll:1
  Lu:1 Ll:1 Lu:1 Ll:1 Lu:1 Ll:1 Lu:1 Ll:1 Lu:1 Ll:1 Lm:2 Mn:2 Lo:46 Nl:a Mn:2 Po:6 Cn:8 Sk:17 Lm:9
  Sk:2 Lu:1 Ll:1 Lu:1 Ll:1 Lu:1 Ll:1 Lu:1 Ll:1 Lu:1 Ll:1 Lu:1 Ll:1 Lu:1 Ll:3 Lu:1 Ll:1 Lu:1 Ll:1
  Lu:1 Ll:1 Lu:1 Ll:1 Lu:1 Ll:1 Lu:1 Ll:1 Lu:1 Ll:1 Lu:1 Ll:1 Lu:1 Ll:1 Lu:1 Ll:1 Lu:1 Ll:1 Lu:1
  Ll:1 Lu:1 Ll:1 Lu:1 Ll:1 Lu:1 Ll:1 Lu:1 Ll:1 Lu:1 Ll:1 Lu:1 Ll:1 Lu:1 Ll:1 Lu:1 Ll:1 Lu:1 Ll:1
  Lu:1 Ll:1 Lu:1 Ll:1 Lu:1 Ll:1 Lu:1 Ll:1 Lu:1 Ll:1 Lu:1 Ll:1 Lu:1 Ll:1 Lu:1 Ll:1 Lu:1 Ll:1 Lu:1
  Ll:1 Lm:1 Ll:8 Lu:1 Ll:1 Lu:1 Ll:1 Lu:2 Ll:1 Lu:1 Ll:1 Lu:1 Ll:1 Lu:1 Ll:1 Lu:1 Ll:1 Lm:1 Sk:2
  Lu:1 Ll:1 Lu:1 Ll:1 Lo:1 Lu:1 Ll:1 Lu:1 Ll:3 Lu:1 Ll:1 Lu:1 Ll:1 Lu:1 Ll:1 Lu:1 Ll:1 Lu:1 Ll:1
  Lu:1 Ll:1 Lu:1 Ll:1 Lu:1 Ll:1 Lu:1 Ll:1 Lu:1 Ll:1 Lu:5 Ll:1 Lu:5 Ll:1 Lu:1 Ll:1 Lu:1 Ll:1 Lu:1
  Ll:1 Lu:1 Ll:1 Lu:1 Ll:1 Lu:1 Ll:1 Lu:1 Ll:1 Lu:4 Ll:1 Lu:1 Ll:1 Lu:2 Ll:1 Cn:2 Lu:1 Ll:1 Cn:1
  Ll:1 Cn:1 Ll:1 Lu:1 Ll:1 Lu:1 Ll:1 Lu:1 Ll:1 Lu:1 Cn:15 Lm:3 Lu:1 Ll:1 Lo:1 Lm:2 Ll:1 Lo:7 Mn:1
  Lo:3 Mn:1 Lo:4 Mn:1 Lo:17 Mc:2 Mn:2 Mc:1 So:4 Mn:1 Cn:3 No:6 So:2 Sc:1 So:1 Cn:6 Lo:34 Po:4 Cn:8
  Mc:2 Lo:32 Mc:10 Mn:2 Cn:8 Po:2 Nd:a Cn:6 Mn:12 Lo:6 Po:3 Lo:1 Po:1 Lo:2 Mn:1 Nd:a Lo:1c Mn:8
  Po:2 Lo:17 Mn:b Mc:2 Cn:b Po:1 Lo:1d Cn:3 Mn:3 Mc:1 Lo:2f Mn:1 Mc:2 Mn:4 Mc:2 Mn:2 Mc:3 Po:d
  Cn:1 Lm:1 Nd:a Cn:4 Po:2 Lo:5 Mn:1 Lm:1 Lo:9 Nd:a Lo:5 Cn:1 Lo:29 Mn:6 Mc:2 Mn:2 Mc:2 Mn:2 Cn:9
  Lo:3 Mn:1 Lo:8 Mn:1 Mc:1 Cn:2 Nd:a Cn:2 Po:4 Lo:10 Lm:1 Lo:6 So:3 Lo:1 Mc:1 Mn:1 Mc:1 Lo:32 Mn:1
  Lo:1 Mn:3 Lo:2 Mn:2 Lo:5 Mn:2 Lo:1 Mn:1 Lo:1 Cn:18 Lo:2 Lm:1 Po:2 Lo:b Mc:1 Mn:2 Mc:2 Po:2 Lo:1
  Lm:2 Mc:1 Mn:1 Cn:a Lo:6 Cn:2 Lo:6 Cn:2 Lo:6 Cn:9 Lo:7 Cn:1 Lo:7 Cn:1 Ll:2b Sk:1 Lm:4 Ll:9 Lm:1
  Sk:2 Cn:4 Ll:50 Lo:23 Mc:2 Mn:1 Mc:2 Mn:1 Mc:2 Po:1 Mc:1 Mn:1 Cn:2 Nd:a Cn:6 Lo:2ba4 Cn:c Lo:17
  Cn:4 Lo:31 Cn:4 Cs:800 Co:1900 Lo:16e Cn:2 Lo:6a Cn:26 Ll:7 Cn:c Ll:5 Cn:5 Lo:1 Mn:1 Lo:a Sm:1
  Lo:d Cn:1 Lo:5 Cn:1 Lo:1 Cn:1 Lo:2 Cn:1 Lo:2 Cn:1 Lo:6c Sk:11 Cn:10 Lo:16b Pe:1 Ps:1 So:10 Lo:40
  Cn:2 Lo:36 Cn:7 So:1 Cn:20 Lo:c Sc:1 So:3 Mn:10 Po:7 Ps:1 Pe:1 Po:1 Cn:6 Mn:10 Po:1 Pd:2 Pc:2
  Ps:1 Pe:1 Ps:1 Pe:1 Ps:1 Pe:1 Ps:1 Pe:1 Ps:1 Pe:1 Ps:1 Pe:1 Ps:1 Pe:1 Ps:1 Pe:1 Po:2 Ps:1 Pe:1
  Po:4 Pc:3 Po:3 Cn:1 Po:4 Pd:1 Ps:1 Pe:1 Ps:1 Pe:1 Ps:1 Pe:1 Po:3 Sm:1 Pd:1 Sm:3 Cn:1 Po:1 Sc:1
  Po:2 Cn:4 Lo:5 Cn:1 Lo:87 Cn:2 Cf:1 Cn:1 Po:3 Sc:1 Po:3 Ps:1 Pe:1 Po:1 Sm:1 Po:1 Pd:1 Po:2 Nd:a
  Po:2 Sm:3 Po:2 Lu:1a Ps:1 Po:1 Pe:1 Sk:1 Pc:1 Sk:1 Ll:1a Ps:1 Sm:1 Pe:1 Sm:1 Ps:1 Pe:1 Po:1 Ps:1
  Pe:1 Po:2 Lo:a Lm:1 Lo:2d Lm:2 Lo:1f Cn:3 Lo:6 Cn:2 Lo:6 Cn:2 Lo:6 Cn:2 Lo:3 Cn:3 Sc:2 Sm:1 Sk:1
  So:1 Sc:2 Cn:1 So:1 Sm:4 So:2 Cn:a Cf:3 So:2 Cn:2 Lo:c Cn:1 Lo:1a Cn:1 Lo:13 Cn:1 Lo:2 Cn:1 Lo:f
  Cn:2 Lo:e Cn:22 Lo:7b Cn:5 Po:3 Cn:4 No:2d Cn:3 So:9 Nl:35 No:4 So:11 No:2 So:3 Cn:1 So:d Cn:3
  So:1 Cn:2f So:2d Mn:1 Cn:82 Lo:1d Cn:3 Lo:31 Cn:f Mn:1 No:1b Cn:4 Lo:20 No:4 Cn:9 Lo:14 Nl:1
  Lo:8 Nl:1 Cn:5 Lo:26 Mn:5 Cn:5 Lo:1e Cn:1 Po:1 Lo:24 Cn:4 Lo:8 Po:1 Nl:5 Cn:2a Lu:28 Ll:28 Lo:4e
  Cn:2 Nd:a Cn:6 Lu:24 Cn:4 Ll:24 Cn:4 Lo:28 Cn:8 Lo:34 Cn:b Po:1 Lu:b Cn:1 Lu:f Cn:1 Lu:7 Cn:1
  Lu:2 Cn:1 Ll:b Cn:1 Ll:f Cn:1 Ll:7 Cn:1 Ll:2 Cn:3 Lo:34 Cn:c Lo:137 Cn:9 Lo:16 Cn:a Lo:8 Cn:18
  Lm:6 Cn:1 Lm:2a Cn:1 Lm:9 Cn:45 Lo:6 Cn:2 Lo:1 Cn:1 Lo:2c Cn:1 Lo:2 Cn:3 Lo:1 Cn:2 Lo:17 Cn:1
  Po:1 No:8 Lo:17 So:2 No:7 Lo:1f Cn:8 No:9 Cn:30 Lo:13 Cn:1 Lo:2 Cn:5 No:5 Lo:16 No:6 Cn:3 Po:1
  Lo:1a Cn:5 Po:1 Cn:40 Lo:38 Cn:4 No:2 Lo:2 No:10 Cn:2 No:2e Lo:1 Mn:3 Cn:1 Mn:2 Cn:5 Mn:4 Lo:4
  Cn:1 Lo:3 Cn:1 Lo:1d Cn:2 Mn:3 Cn:4 Mn:1 No:9 Cn:7 Po:9 Cn:7 Lo:1d No:2 Po:1 Lo:1d No:3 Cn:20
  Lo:8 So:1 Lo:1c Mn:2 Cn:4 No:5 Po:7 Cn:9 Lo:36 Cn:3 Po:7 Lo:16 Cn:2 No:8 Lo:13 Cn:5 No:8 Lo:12
  Cn:7 Po:4 Cn:c No:7 Cn:50 Lo:49 Cn:37 Lu:33 Cn:d Ll:33 Cn:7 No:6 Lo:24 Mn:4 Cn:8 Nd:a Cn:6 Nd:a
  Lo:4 Lm:1 Lo:1 Lu:16 Cn:3 Mn:5 Pd:1 Lm:1 Ll:16 Cn:8 Sm:2 Cn:d0 No:1f Cn:1 Lo:2a Cn:1 Mn:2 Pd:1
  Cn:2 Lo:2 Cn:10 Lo:3 Cn:37 Mn:4 Lo:1d No:a Lo:1 Cn:8 Lo:16 Mn:b No:4 Po:5 Cn:16 Lo:12 Mn:4 Po:4
  Cn:26 Lo:15 No:7 Cn:14 Lo:17 Cn:9 Mc:1 Mn:1 Mc:1 Lo:35 Mn:f Po:7 Cn:4 No:14 Nd:a Mn:1 Lo:2 Mn:2
  Lo:1 Cn:9 Mn:3 Mc:1 Lo:2d Mc:3 Mn:4 Mc:2 Mn:2 Po:2 Cf:1 Po:4 Mn:1 Cn:a Cf:1 Cn:2 Lo:19 Cn:7 Nd:a
  Cn:6 Mn:3 Lo:24 Mn:5 Mc:1 Mn:8 Cn:1 Nd:a Po:4 Lo:1 Mc:2 Lo:1 Cn:8 Lo:23 Mn:1 Po:2 Lo:1 Cn:9 Mn:2
  Mc:1 Lo:30 Mc:3 Mn:9 Mc:2 Lo:4 Po:4 Mn:4 Po:1 Mc:1 Mn:1 Nd:a Lo:1 Po:1 Lo:1 Po:3 Cn:1 No:14 Cn:b
  Lo:12 Cn:1 Lo:19 Mc:3 Mn:3 Mc:2 Mn:1 Mc:1 Mn:2 Po:6 Mn:1 Lo:2 Mn:1 Cn:3e Lo:7 Cn:1 Lo:1 Cn:1
  Lo:4 Cn:1 Lo:f Cn:1 Lo:a Po:1 Cn:6 Lo:2f Mn:1 Mc:3 Mn:8 Cn:5 Nd:a Cn:6 Mn:2 Mc:2 Cn:1 Lo:8 Cn:2
  Lo:2 Cn:2 Lo:16 Cn:1 Lo:7 Cn:1 Lo:2 Cn:1 Lo:5 Cn:1 Mn:2 Lo:1 Mc:2 Mn:1 Mc:4 Cn:2 Mc:2 Cn:2 Mc:3
  Cn:2 Lo:1 Cn:6 Mc:1 Cn:5 Lo:5 Mc:2 Cn:2 Mn:7 Cn:3 Mn:5 Cn:b Lo:a Cn:1 Lo:1 Cn:2 Lo:1 Cn:1 Lo:26
  Cn:1 Lo:1 Mc:3 Mn:6 Cn:1 Mc:1 Cn:2 Mc:1 Cn:1 Mc:4 Cn:1 Mc:2 Mn:1 Mc:1 Mn:1 Lo:1 Mn:1 Lo:1 Po:2
  Cn:1 Po:2 Cn:8 Mn:2 Cn:1d Lo:35 Mc:3 Mn:8 Mc:2 Mn:3 Mc:1 Mn:1 Lo:4 Po:5 Nd:a Po:2 Cn:1 Po:1 Mn:1
  Lo:3 Cn:1e Lo:30 Mc:3 Mn:6 Mc:1 Mn:1 Mc:4 Mn:2 Mc:1 Mn:2 Lo:2 Po:1 Lo:1 Cn:8 Nd:a Cn:a6 Lo:2f
  Mc:3 Mn:4 Cn:2 Mc:4 Mn:2 Mc:1 Mn:2 Po:17 Lo:4 Mn:2 Cn:22 Lo:30 Mc:3 Mn:8 Mc:2 Mn:1 Mc:1 Mn:2
  Po:3 Lo:1 Cn:b Nd:a Cn:6 Po:d Cn:13 Lo:2b Mn:1 Mc:1 Mn:1 Mc:2 Mn:6 Mc:1 Mn:1 Lo:1 Po:1 Cn:6 Nd:a
  Cn:6 Nd:14 Cn:1c Lo:1b Cn:2 Mn:1 Mc:1 Mn:1 Mc:2 Mn:4 Mc:1 Mn:5 Cn:4 Nd:a No:2 Po:3 So:1 Lo:7
  Cn:b9 Lo:2c Mc:3 Mn:9 Mc:1 Mn:2 Po:1 Cn:64 Lu:20 Ll:20 Nd:a No:9 Cn:c Lo:8 Cn:2 Lo:1 Cn:2 Lo:8
  Cn:1 Lo:2 Cn:1 Lo:18 Mc:6 Cn:1 Mc:2 Cn:2 Mn:2 Mc:1 Mn:1 Lo:1 Mc:1 Lo:1 Mc:1 Mn:1 Po:3 Cn:9 Nd:a
  Cn:46 Lo:8 Cn:2 Lo:27 Mc:3 Mn:4 Cn:2 Mn:2 Mc:4 Mn:1 Lo:1 Po:1 Lo:1 Mc:1 Cn:1b Lo:1 Mn:a Lo:28
  Mn:6 Mc:1 Lo:1 Mn:4 Po:8 Mn:1 Cn:8 Lo:1 Mn:6 Mc:2 Mn:3 Lo:2e Mn:d Mc:1 Mn:2 Po:3 Lo:1 Po:5 Cn:d
  Lo:49 Cn:7 Po:a Cn:b6 Lo:21 Po:1 Cn:e Nd:a Cn:6 Lo:9 Cn:1 Lo:25 Mc:1 Mn:7 Cn:1 Mn:6 Mc:1 Mn:1
  Lo:1 Po:5 Cn:a Nd:a No:13 Cn:3 Po:2 Lo:1e Cn:2 Mn:16 Cn:1 Mc:1 Mn:7 Mc:1 Mn:2 Mc:1 Mn:2 Cn:49
  Lo:7 Cn:1 Lo:2 Cn:1 Lo:26 Mn:6 Cn:3 Mn:1 Cn:1 Mn:2 Cn:1 Mn:7 Lo:1 Mn:1 Cn:8 Nd:a Cn:6 Lo:6 Cn:1
  Lo:2 Cn:1 Lo:20 Mc:5 Cn:1 Mn:2 Cn:1 Mc:2 Mn:1 Mc:1 Mn:1 Lo:1 Cn:7 Nd:a Cn:136 Lo:13 Mn:2 Mc:2
  Po:2 Cn:7 Mn:2 Lo:1 Mc:1 Lo:d Cn:1 Lo:22 Mc:2 Mn:5 Cn:3 Mc:2 Mn:1 Mc:1 Mn:1 Po:d Nd:a Mn:1 Cn:55
  Lo:1 Cn:f No:15 So:8 Sc:4 So:11 Cn:d Po:1 Lo:39a Cn:66 Nl:6f Cn:1 Po:5 Cn:b Lo:c4 Cn:a4c Lo:61
  Po:2 Cn:d Lo:430 Cf:10 Mn:1 Lo:6 Mn:f Cn:a Lo:f9b Cn:5 Lo:247 Cn:1ab9 Lo:1e Mn:c Mc:3 Mn:3 Nd:a
  Cn:6c6 Lo:239 Cn:7 Lo:1f Cn:1 Nd:a Cn:4 Po:2 Lo:4f Cn:1 Nd:a Cn:6 Lo:1e Cn:2 Mn:5 Po:1 Cn:a
  Lo:30 Mn:7 Po:5 So:4 Lm:4 Po:1 So:1 Cn:a Nd:a Cn:1 No:7 Cn:1 Lo:15 Cn:5 Lo:13 Cn:1b0 Lm:3 Lo:28
  Lm:2 Po:3 Nd:a Cn:c6 Lu:20 Ll:20 No:17 Po:4 Cn:65 Lo:4b Cn:4 Mn:1 Lo:1 Mc:37 Cn:7 Mn:4 Lm:d
  Cn:40 Lm:2 Po:1 Lm:1 Mn:1 Cn:b Mc:2 Cn:e Lo:17f8 Cn:8 Lo:4d6 Cn:29 Lo:a Cn:22e7 Lm:4 Cn:1 Lm:7
  Cn:1 Lm:2 Cn:1 Lo:123 Cn:f Lo:1 Cn:1d Lo:3 Cn:2 Lo:1 Cn:e Lo:4 Cn:8 Lo:18c Cn:904 Lo:6b Cn:5
  Lo:d Cn:3 Lo:9 Cn:7 Lo:a Cn:2 So:1 Mn:2 Po:1 Cf:4 Cn:f5c So:f0 Nd:a Cn:6 So:1b4 Cn:4c Mn:2e Cn:2
  Mn:17 Cn:9 So:74 Cn:3c So:f6 Cn:a So:27 Cn:2 So:3c Mc:2 Mn:3 So:3 Mc:6 Cf:8 Mn:8 So:2 Mn:7 So:1e
  Mn:4 So:3d Cn:15 So:42 Mn:3 So:1 Cn:7a No:14 Cn:c No:14 Cn:c So:57 Cn:9 No:19 Cn:87 Lu:1a Ll:1a
  Lu:1a Ll:7 Cn:1 Ll:12 Lu:1a Ll:1a Lu:1 Cn:1 Lu:2 Cn:2 Lu:1 Cn:2 Lu:2 Cn:2 Lu:4 Cn:1 Lu:8 Ll:4
  Cn:1 Ll:1 Cn:1 Ll:7 Cn:1 Ll:b Lu:1a Ll:1a Lu:2 Cn:1 Lu:4 Cn:2 Lu:8 Cn:1 Lu:7 Cn:1 Ll:1a Lu:2
  Cn:1 Lu:4 Cn:1 Lu:5 Cn:1 Lu:1 Cn:3 Lu:7 Cn:1 Ll:1a Lu:1a Ll:1a Lu:1a Ll:1a Lu:1a Ll:1a Lu:1a
  Ll:1a Lu:1a Ll:1a Lu:1a Ll:1c Cn:2 Lu:19 Sm:1 Ll:19 Sm:1 Ll:6 Lu:19 Sm:1 Ll:19 Sm:1 Ll:6 Lu:19
  Sm:1 Ll:19 Sm:1 Ll:6 Lu:19 Sm:1 Ll:19 Sm:1 Ll:6 Lu:19 Sm:1 Ll:19 Sm:1 Ll:6 Lu:1 Ll:1 Cn:2 Nd:32
  So:200 Mn:37 So:4 Mn:32 So:8 Mn:1 So:e Mn:1 So:2 Po:5 Cn:f Mn:5 Cn:1 Mn:f Cn:450 Ll:a Lo:1 Ll:14
  Cn:6 Ll:6 Cn:d5 Mn:7 Cn:1 Mn:11 Cn:2 Mn:7 Cn:1 Mn:2 Cn:1 Mn:5 Cn:5 Lm:3e Cn:21 Mn:1 Cn:70 Lo:2d
  Cn:3 Mn:7 Lm:7 Cn:2 Nd:a Cn:4 Lo:1 So:1 Cn:140 Lo:1e Mn:1 Cn:11 Lo:2c Mn:4 Nd:a Cn:5 Sc:1 Cn:1d0
  Lo:1b Lm:1 Mn:4 Nd:a Cn:d6 Lo:1e Mn:2 Lo:1 Nd:a Cn:4 Po:1 Cn:1e0 Lo:7 Cn:1 Lo:4 Cn:1 Lo:2 Cn:1
  Lo:f Cn:1 Lo:c5 Cn:2 No:9 Mn:7 Cn:29 Lu:22 Ll:22 Mn:7 Lm:1 Cn:4 Nd:a Cn:4 Po:2 Cn:311 No:3b So:1
  No:3 Sc:1 No:4 Cn:4c No:2d So:1 No:f Cn:c2 Lo:4 Cn:1 Lo:1b Cn:1 Lo:2 Cn:1 Lo:1 Cn:2 Lo:1 Cn:1
  Lo:a Cn:1 Lo:4 Cn:1 Lo:1 Cn:1 Lo:1 Cn:6 Lo:1 Cn:4 Lo:1 Cn:1 Lo:1 Cn:1 Lo:1 Cn:1 Lo:3 Cn:1 Lo:2
  Cn:1 Lo:1 Cn:2 Lo:1 Cn:1 Lo:1 Cn:1 Lo:1 Cn:1 Lo:1 Cn:1 Lo:1 Cn:1 Lo:2 Cn:1 Lo:1 Cn:2 Lo:4 Cn:1
  Lo:7 Cn:1 Lo:4 Cn:1 Lo:4 Cn:1 Lo:1 Cn:1 Lo:a Cn:1 Lo:11 Cn:5 Lo:3 Cn:1 Lo:5 Cn:1 Lo:11 Cn:34
  Sm:2 Cn:10e So:2c Cn:4 So:64 Cn:c So:f Cn:2 So:f Cn:1 So:f Cn:1 So:25 Cn:a No:d So:a1 Cn:38
  So:1d Cn:d So:2c Cn:4 So:9 Cn:7 So:2 Cn:e So:6 Cn:9a So:fb Sk:5 So:2d8 Cn:4 So:11 Cn:3 So:d Cn:3
  So:77 Cn:4 So:5f Cn:6 So:c Cn:4 So:1 Cn:f So:c Cn:4 So:38 Cn:8 So:a Cn:6 So:28 Cn:8 So:1e Cn:2
  So:c Cn:4 So:2 Cn:3e So:154 Cn:c So:e Cn:2 So:d Cn:3 So:a Cn:5 So:38 Cn:7 So:f Cn:2 So:b Cn:6
  So:9 Cn:7 So:93 Cn:1 So:5c Nd:a Cn:406 Lo:a6e0 Cn:20 Lo:103a Cn:6 Lo:de Cn:2 Lo:1682 Cn:e
  Lo:1d31 Cn:f Lo:26e Cn:9a2 Lo:21e Cn:5e2 Lo:134b Cn:5 Lo:1060 Cn:adc51 Cf:1 Cn:1e Cf:60 Cn:80
  Mn:f0 Cn:fe10 Co:fffe Cn:2 Co:fffe Cn:2"

/-- The names of each category and group, in lower case and without underscores, with the
categories they stand for. -/
def categoryNames : List (List String × List String) := [
  (["lu", "uppercaseletter"], ["Lu"]),
  (["ll", "lowercaseletter"], ["Ll"]),
  (["lt", "titlecaseletter"], ["Lt"]),
  (["lm", "modifierletter"], ["Lm"]),
  (["lo", "otherletter"], ["Lo"]),
  (["lc", "casedletter"], ["Lu", "Ll", "Lt"]),
  (["l", "letter"], ["Lu", "Ll", "Lt", "Lm", "Lo"]),
  (["mn", "nonspacingmark"], ["Mn"]),
  (["mc", "spacingmark"], ["Mc"]),
  (["me", "enclosingmark"], ["Me"]),
  (["m", "mark", "combiningmark"], ["Mn", "Mc", "Me"]),
  (["nd", "decimalnumber", "digit"], ["Nd"]),
  (["nl", "letternumber"], ["Nl"]),
  (["no", "othernumber"], ["No"]),
  (["n", "number"], ["Nd", "Nl", "No"]),
  (["pc", "connectorpunctuation"], ["Pc"]),
  (["pd", "dashpunctuation"], ["Pd"]),
  (["ps", "openpunctuation"], ["Ps"]),
  (["pe", "closepunctuation"], ["Pe"]),
  (["pi", "initialpunctuation"], ["Pi"]),
  (["pf", "finalpunctuation"], ["Pf"]),
  (["po", "otherpunctuation"], ["Po"]),
  (["p", "punctuation", "punct"], ["Pc", "Pd", "Ps", "Pe", "Pi", "Pf", "Po"]),
  (["sm", "mathsymbol"], ["Sm"]),
  (["sc", "currencysymbol"], ["Sc"]),
  (["sk", "modifiersymbol"], ["Sk"]),
  (["so", "othersymbol"], ["So"]),
  (["s", "symbol"], ["Sm", "Sc", "Sk", "So"]),
  (["zs", "spaceseparator"], ["Zs"]),
  (["zl", "lineseparator"], ["Zl"]),
  (["zp", "paragraphseparator"], ["Zp"]),
  (["z", "separator"], ["Zs", "Zl", "Zp"]),
  (["cc", "control", "cntrl"], ["Cc"]),
  (["cf", "format"], ["Cf"]),
  (["cs", "surrogate"], ["Cs"]),
  (["co", "privateuse"], ["Co"]),
  (["cn", "unassigned"], ["Cn"]),
  (["c", "other"], ["Cc", "Cf", "Cs", "Co", "Cn"])]

/-- The code points of the category or group of a given name. -/
def category? (name : String) : Option CodePoints :=
  if name = "any" then some [⟨0, 0x10FFFF⟩]
  else if name = "ascii" then some [⟨0, 0x7F⟩]
  else if name = "assigned" then some (CodePoints.ofValue categories (· != "Cn"))
  else (categoryNames.find? (·.1.contains name)).map fun entry =>
    CodePoints.ofValue categories entry.2.contains

end RuleMachine.Text
