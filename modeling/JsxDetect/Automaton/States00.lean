import JsxDetect.Automaton.Packed

/-!
# Parsing automaton: states 0 to 511

Packed rows; see `PackedRow` for the layout.
-/

namespace JsxDetect.Automaton

/-- States 0 to 63. -/
def states0000 : List PackedRow := [
  ⟨0, 1, 0x85cdb3, 0x0⟩,
  ⟨1, 2, 0x53b05253ac5453a82211bc530a804b13ac69455c0f209c1c53a41120981f385c06800000063c0a342c0153a01b06381a01c40b34d8100adc0e30881342f80542f4044ee419034003029c18050c66049c654ee0644558634554624edc61007c604ed85b0634170b684603140245505f4ed45e4ed05d34282811b85134d4504ecc5a06301e00100911b4142aa80c13284c0a484d0039b413a80785d101, 0x3864054eec0003a425386001132c044ee8232b300b53b8022f3c0742fc0a53bc0620980c20a0281d5c0919fc0814280d0bec24003c3f3120030be82c53b492⟩,
  ⟨2, 3, 0x147c882b18875468320f003854643754602213407b0efc2302e826455c0f1db81c189c861de42f57741122d08534a00680000081300a039884081156349001812c1b0744160ef4150ef012064c4e80082b08181a01d00b05a0253808100acc0e30f4134494054490044ee41901000302b81808141701900281282d2b3828046c358030a6114809119c1480055580b40841e80c2b342012d48f12cc07, 0x44f0054f94002b4c1b2b381e2b481a2b441d2d3c192b20182b1c172ab81634f02a3af42e3b2001132c0422d0142c480b135c2d577802546c15306c07442c0a383806189c3a18a00e16900925640812842b33d403⟩,
  ⟨2, 3, 0x147c882b18875468320f003854643754602213407b0efc2302e826455c0f1db81c189c861de42f57741122d08534a00680000081300a039884081156349001812c1b0744160ef4150ef012064c4e80082b08181a01d00b0564253808100acc0e30f4134494054490044ee41901000302b81808141701900281282d2b3828046c35805ca6114809119c1480055580bc0841e80c2b342012d48f12cc07, 0x44f0054f94002b4c1b2b381e2b481a2b441d2d3c192b20182b1c172ab81634f02a3af42e3b2001132c0422d0142c480b135c2d577802546c15306c07442c0a383806189c3a18a00e16900925640812842b33d403⟩,
  ⟨1, 2, 0x53b05253ac5453a82212347b117c530aa8490aa4560a3c4b0a64430a60260a5459455c0f209c1c20989f3ab81120a480385c06800000063c0a342c0153a01b06484e06381a015c0b34d8100a300e30881342f80542f4044ee419034403029c18050c66049c654ee0644558634554624edc61007c604ed85b0634170b684603140245505f4ed45e4ed05d34282811785134d4504ecc5a06301e03783416502a0010091174142aa80c11e44c2944200a244d123007, 0x458021457c1f3864054eec0028e42228902703a42534e070386001132c0420a4144ee8234578402b300b53b8022f3c0742fc0a45743e53d80620983a20a0281d5c0919fc0814280d0bec2400443f3120030be82c⟩,
  ⟨1, 2, 0x53b05253ac5453a82212347b117c530aa8490aa4560a3c4b0a64430a60260a5459455c0f209c1c20989f3ab81120a480385c06800000063c0a342c0153a01b06484e06381a015c0b34d8100a300e30881342f80542f4044ee419034403029c18050c66049c654ee0644558634554624edc61007c604ed85b0634170b684603140245505f4ed45e4ed05d34282811785134d4504ecc5a06301e1dfc3416502a0010091174142aa80c11e44c2944200a244d123007, 0x458021457c1f3864054eec0028e42228902703a42534e070386001132c0420a4144ee8234578402b300b53b8022f3c0742fc0a45743e53d80620983a20a0281d5c0919fc0814280d0bec2400443f3120030be82c⟩,
  ⟨1, 2, 0x53b05253ac5453a82212347b117c530aa8490aa4560a3c4b0a64430a60260a5459455c0f209c1c20989f3ab81120a480385c06800000063c0a342c0153a01b06484e06381a015c0b34d8100a300e30881342f80542f4044ee419034403029c18050c66049c654ee0644558634554624edc61007c604ed85b0634170b684603140245505f4ed45e4ed05d34282811785134d4504ecc5a06301e1f3c3416502a0010091174142aa80c11e44c2944200a244d123007, 0x458021457c1f3864054eec0028e42228902703a42534e070386001132c0420a4144ee8234578402b300b53b8022f3c0742fc0a45743e53d80620983a20a0281d5c0919fc0814280d0bec24004c3f3120030be82c⟩,
  ⟨1, 2, 0x53b05253ac5453a82212647b1188530ab4490ab0560a404b0a74430a70260a5859455c0f209c1c20989f3ab81120a480385c06800000063c0a342c0153a01b06484e06381a01600b34d8100a340e30881342f80542f4044ee419034403029c18050c66049c654ee0644558634554624edc61007c604ed85b0634170b684603140245505f4ed45e4ed05d34282811845134d4504ecc5a06301e16643416502a0010091180142aa80c121c4c2944200a284d126007, 0x4580214d4c1f3864054eec0028e42228902703a42534e070386001132c0420a4144ee8234d48402b300b53b8022f3c0742fc0a45743e53d80620983a20a0281d5c0919fc0814280d0bec24005c3f3120030be82c⟩,
  ⟨1, 2, 0x53b05253ac5453a82212747b1194530ac0490abc560a444b0a7c430a78260a5c59455c0f209c1c20989f3ab81120a480385c06800000063c0a342c0153a01b06484e06381a01640b34d8100a380e30881342f80542f4044ee419034403029c18050c66049c654ee0644558634554624edc61007c604ed85b0634170b684603140245505f4ed45e4ed05d34282811905134d4504ecc5a06301e16643416502a001009118c142aa80c12204c2944200a2c4d127007, 0x4580214d4c1f3864054eec0028e42228902703a42534e070386001132c0420a4144ee8234d48402b300b53b8022f3c0742fc0a45743e53d80620983a20a0281d5c0919fc0814280d0bec24005c3f3120030be82c⟩,
  ⟨1, 2, 0x869852869454869022868c5386884b86846986800f867c1c86781186741f867006800000866c0a86680186641b86601a865c0b86581086540e865013864c05864804864419864003863c18863866863465863064862c63862862862461862060861c5b861817861446861002860c5f86085e86045d86002885fc5185f85085f45a85f01e85ec0985e81485e40c85e04c85dc4d85d80785d5b5, 0x3864054eec0003a425386001132c044ee8232b300b53b8022f3c0742fc0a53bc0620980c20a0281d5c0919fc0814280d0bec2400243f3120030be82c⟩,
  ⟨1, 2, 0x53b05253ac5453a82211bc530a804b13ac69455c0f209c1c53a41120981f385c06800000063c0a342c0153a01b06381a01c40b34d8100adc0e30881342f80542f4044ee419034003029c18050c66049c654ee0644558634554624edc61007c604ed85b0634170b684603140245505f4ed45e4ed05d34282811b85134d4504ecc5a06301e00100911b4142aa80c13284c869d1a0a484d13a807, 0x3864054eec0003a425386001132c044ee8232b300b53b8022f3c0742fc0a53bc0620980c20a0281d5c0919fc0814280d0bec24002c3f3120030be82c⟩,
  ⟨1, 2, 0x53b05253ac5453a82211bc530a804b13ac69455c0f209c1c53a41120981f385c06800000063c0a342c0153a01b06381a01c40b34d8100adc0e30881342f80542f4044ee419034003029c18050c66049c654ee0644558634554624edc61007c604ed85b0634170b684603140245505f4ed45e4ed05d34282811b85134d4504ecc5a06301e00100911b4142aa80c13284c86a11a0a484d13a807, 0x3864054eec0003a425386001132c044ee8232b300b53b8022f3c0742fc0a53bc0620980c20a0281d5c0919fc0814280d0bec2400243f3120030be82c⟩,
  ⟨1, 2, 0x53b05253ac5453a82211bc530a804b13ac69455c0f209c1c53a41120981f385c06800000063c0a342c0153a01b06381a01c40b34d8100adc0e30881342f80542f4044ee419034003029c18050c66049c654ee0644558634554624edc61007c604ed85b0634170b684603140245505f4ed45e4ed05d34282811b85134d4504ecc5a06301e00100911b4142aa80c13284c86a51a0a484d13a807, 0x3864054eec0003a425386001132c044ee8232b300b53b8022f3c0742fc0a53bc0620980c20a0281d5c0919fc0814280d0bec2400343f3120030be82c⟩,
  ⟨1, 2, 0x53b05253ac5453a82211bc530a804b13ac69455c0f209c1c53a41120981f385c06800000063c0a342c0153a01b06381a01c40b34d8100adc0e30881342f80542f4044ee419034003029c18050c66049c654ee0644558634554624edc61007c604ed85b0634170b684603140245505f4ed45e4ed05d34282811b85134d4504ecc5a06301e00100911b4142aa80c13284c86a91a0a484d13a807, 0x3864054eec0003a425386001132c044ee8232b300b53b8022f3c0742fc0a53bc0620980c20a0281d5c0919fc0814280d0bec2400243f3120030be82c⟩,
  ⟨1, 2, 0x53b05253ac5453a82211bc530a804b13ac69455c0f209c1c53a41120981f385c06800000063c0a342c0153a01b06381a01c40b34d8100adc0e30881342f80542f4044ee419034003029c18050c66049c654ee0644558634554624edc61007c604ed85b0634170b684603140245505f4ed45e4ed05d34282811b85134d4504ecc5a06301e00100911b4142aa80c13284c0a484d13a807846901, 0x3864054eec0003a425386001132c044ee8232b300b53b8022f3c0742fc0a53bc0620980c20a0281d5c0919fc0814280d0bec2400403f3120030be82c⟩,
  ⟨1, 2, 0x53b05253ac5453a82211bc530a804b13ac69455c0f209c1c53a41120981f385c06800000063c0a342c0153a01b06381a01c40b34d8100adc0e30881342f80542f4044ee419034003029c18050c66049c654ee0644558634554624edc61007c604ed85b0634170b684603140245505f4ed45e4ed05d34282811b85134d4504ecc5a06301e00100911b4142aa80c13284c0a484d13a807846901, 0x3864054eec0003a425386001132c044ee8232b300b53b8022f3c0742fc0a53bc0620980c20a0281d5c0919fc0814280d0bec2400243f3120030be82c⟩,
  ⟨1, 2, 0x53b05253ac5453a82211bc530a804b13ac69455c0f209c1c53a41120981f385c06800000063c0a342c0153a01b06381a01c40b34d8100adc0e30881342f80542f4044ee419034003029c18050c66049c654ee0644558634554624edc61007c604ed85b0634170b684603140245505f4ed45e4ed05d34282811b85134d4504ecc5a06301e00100911b4142aa80c13284c0a484d13a80786ad01, 0x3864054eec0003a425386001132c044ee8232b300b53b8022f3c0742fc0a53bc0620980c20a0281d5c0919fc0814280d0bec2400243f3120030be82c⟩,
  ⟨1, 2, 0x53b05253ac5453a82211bc530a804b13ac69455c0f209c1c53a41120981f385c06800000063c0a342c0153a01b06381a01c40b34d8100adc0e30881342f80542f4044ee419034003029c18050c66049c654ee0644558634554624edc61007c604ed85b0634170b684603140245505f4ed45e4ed05d34282811b85134d4504ecc5a06301e0af83400100911b4142aa80c13284c0a484d13a807, 0x3864054eec0003a425386001132c044ee8232b300b53b8022f3c0742fc0a53bc0620980c20a0281d5c0919fc0814280d0bec2400243f3120030be82c⟩,
  ⟨1, 2, 0x53b05253ac5453a82211bc530a804b13ac69455c0f209c1c53a41120981f385c06800000063c0a342c0153a01b06381a01c40b34d8100adc0e30881342f80542f4044ee419034003029c18050c66049c654ee0644558634554624edc61007c604ed85b0634170b684603140245505f4ed45e4ed05d34282811b85134d4504ecc5a06301e0b003400100911b4142aa80c13284c0a484d13a807, 0x3864054eec0003a425386001132c044ee8232b300b53b8022f3c0742fc0a53bc0620980c20a0281d5c0919fc0814280d0bec2400443f3120030be82c⟩,
  ⟨1, 2, 0x53b05253ac5453a82211bc530a804b13ac69455c0f209c1c53a41120981f385c06800000063c0a342c0153a01b06381a01c40b34d8100adc0e30881342f80542f4044ee419034003029c18050c66049c654ee0644558634554624edc61007c604ed85b0634170b684603140245505f4ed45e4ed05d34282811b85134d4504ecc5a06301e1ac03400100911b4142aa80c13284c0a484d13a807, 0x3864054eec0003a425386001132c044ee8232b300b53b8022f3c0742fc0a53bc0620980c20a0281d5c0919fc0814280d0bec2400243f3120030be82c⟩,
  ⟨1, 2, 0x53b05253ac5453a82211bc530a804b13ac69455c0f209c1c53a41120981f385c06800000063c0a342c0153a01b06381a01c40b34d8100adc0e30881342f80542f4044ee419034003029c18050c66049c654ee0644558634554624edc61007c604ed85b0634170b684603140245505f4ed45e4ed05d34282811b85134d4504ecc5a06301e03ec3400100911b4142aa80c13284c0a484d13a807, 0x3864054eec0003a425386001132c044ee8232b300b53b8022f3c0742fc0a53bc0620980c20a0281d5c0919fc0814280d0bec2400543f3120030be82c⟩,
  ⟨1, 2, 0x53b05253ac5453a82211bc530a804b13ac69455c0f209c1c53a41120981f385c06800000063c0a342c0153a01b06381a01c40b34d8100adc0e30881342f80542f4044ee419034003029c18050c66049c654ee0644558634554624edc61007c604ed85b0634170b684603140245505f4ed45e4ed05d34282811b85134d4504ecc5a06301e03f83400100911b4142aa80c13284c0a484d13a807, 0x3864054eec0003a425386001132c044ee8232b300b53b8022f3c0742fc0a53bc0620980c20a0281d5c0919fc0814280d0bec2400243f3120030be82c⟩,
  ⟨1, 2, 0x53b05253ac5453a82211bc530a804b13ac69455c0f209c1c53a41120981f385c06800000063c0a342c0153a01b06381a01c40b34d8100adc0e30881342f80542f4044ee419034003029c18050c66049c654ee0644558634554624edc61007c604ed85b0634170b684603140245505f4ed45e4ed05d34282811b85134d4504ecc5a06301e1aec3400100911b4142aa80c13284c0a484d13a807, 0x3864054eec0003a425386001132c044ee8232b300b53b8022f3c0742fc0a53bc0620980c20a0281d5c0919fc0814280d0bec24004c3f3120030be82c⟩,
  ⟨1, 2, 0x53b05253ac5453a82211bc530a804b13ac69455c0f209c1c53a41120981f385c06800000063c0a342c0153a01b06381a01c40b34d8100adc0e30881342f80542f4044ee419034003029c18050c66049c654ee0644558634554624edc61007c604ed85b0634170b684603140245505f4ed45e4ed05d34282811b85134d4504ecc5a06301e188c3400100911b4142aa80c13284c0a484d13a807, 0x3864054eec0003a425386001132c044ee8232b300b53b8022f3c0742fc0a53bc0620980c20a0281d5c0919fc0814280d0bec2400243f3120030be82c⟩,
  ⟨1, 2, 0x53b05253ac5453a82211bc530a804b13ac69455c0f209c1c53a41120981f385c06800000063c0a342c0153a01b06381a01c40b34d8100adc0e30881342f80542f4044ee419034003029c18050c66049c654ee0644558634554624edc61007c604ed85b0634170b684603140245505f4ed45e4ed05d34282811b85134d4504ecc5a06301e175c3400100911b4142aa80c13284c0a484d13a807, 0x3864054eec0003a425386001132c044ee8232b300b53b8022f3c0742fc0a53bc0620980c20a0281d5c0919fc0814280d0bec24005c3f3120030be82c⟩,
  ⟨1, 2, 0x53b05253ac5453a82211bc530a804b13ac69455c0f209c1c53a41120981f385c06800000063c0a342c0153a01b06381a01c40b34d8100adc0e30881342f80542f4044ee419034003029c18050c66049c654ee0644558634554624edc61007c604ed85b0634170b684603140245505f4ed45e4ed05d34282811b85134d4504ecc5a06301e27783400100911b4142aa80c13284c0a484d13a807, 0x3864054eec0003a425386001132c044ee8232b300b53b8022f3c0742fc0a53bc0620980c20a0281d5c0919fc0814280d0bec2400243f3120030be82c⟩,
  ⟨1, 2, 0x53b05253ac5453a82211bc530a804b13ac69455c0f209c1c53a41120981f385c06800000063c0a342c0153a01b06381a01c40b34d8100adc0e30881342f80542f4044ee419034003029c18050c66049c654ee0644558634554624edc61007c604ed85b0634170b684603140245505f4ed45e4ed05d34282811b85134d4504ecc5a06301e277c3400100911b4142aa80c13284c0a484d13a807, 0x3864054eec0003a425386001132c044ee8232b300b53b8022f3c0742fc0a53bc0620980c20a0281d5c0919fc0814280d0bec2400643f3120030be82c⟩,
  ⟨1, 2, 0x53b05253ac5453a82211bc530a804b13ac69455c0f209c1c53a41120981f385c06800000063c0a342c0153a01b06381a01c40b34d8100adc0e30881342f80542f4044ee419034003029c18050c66049c654ee0644558634554624edc61007c604ed85b0634170b684603140245505f4ed45e4ed05d34282811b85134d4504ecc5a06301e27943400100911b4142aa80c13284c0a484d13a807, 0x3864054eec0003a425386001132c044ee8232b300b53b8022f3c0742fc0a53bc0620980c20a0281d5c0919fc0814280d0bec2400243f3120030be82c⟩,
  ⟨1, 2, 0x53b05253ac5453a82211bc530a804b13ac69455c0f209c1c53a41120981f385c06800000063c0a342c0153a01b06381a01c40b34d8100adc0e30881342f80542f4044ee419034003029c18050c66049c654ee0644558634554624edc61007c604ed85b0634170b684603140245505f4ed45e4ed05d34282811b85134d4504ecc5a06301e0b303400100911b4142aa80c13284c0a484d13a807, 0x3864054eec0003a425386001132c044ee8232b300b53b8022f3c0742fc0a53bc0620980c20a0281d5c0919fc0814280d0bec2400783f3120030be82c⟩,
  ⟨1, 2, 0x53b05253ac5453a82211bc530a804b13ac69455c0f209c1c53a41120981f385c06800000063c0a342c0153a01b06381a01c40b34d8100adc0e30881342f80542f4044ee419034003029c18050c66049c654ee0644558634554624edc61007c604ed85b0634170b684603140245505f4ed45e4ed05d34282811b85134d4504ecc5a06301e27843400100911b4142aa80c13284c0a484d13a807, 0x3864054eec0003a425386001132c044ee8232b300b53b8022f3c0742fc0a53bc0620980c20a0281d5c0919fc0814280d0bec24006c3f3120030be82c⟩,
  ⟨1, 2, 0x53b05253ac5453a82211bc530a804b13ac69455c0f209c1c53a41120981f385c06800000063c0a342c0153a01b06381a01c40b34d8100adc0e30881342f80542f4044ee419034003029c18050c66049c654ee0644558634554624edc61007c604ed85b0634170b684603140245505f4ed45e4ed05d34282811b85134d4504ecc5a06301e0b383400100911b4142aa80c13284c0a484d13a807, 0x3864054eec0003a425386001132c044ee8232b300b53b8022f3c0742fc0a53bc0620980c20a0281d5c0919fc0814280d0bec2400243f3120030be82c⟩,
  ⟨1, 2, 0x53b05253ac5453a82211d0530a984b140069455c0f209c1c53a41120981f385c06800000063c0a342c0153a01b06381a01d80b3834100ae80e31081342f80542f4044ee419034003029c18050c66049c654ee0644558634554624edc61007c6053185b0634170b68460314024e945f4ed45e53145d34282811cc5134d45053105a06301e00140911c8142aa80c13884c0a4c4d13fc07, 0x3a64054eec00226c25386001132c044ee8232b300b53b8022f3c0742fc0a53bc0620980c20a0281d5c0919fc0814280d0bec2453e4353120030be82c⟩,
  ⟨1, 2, 0x53b05253ac5453a82211bc530a804b13ac69455c0f209c1c53a41120981f385c06800000063c0a342c0153a01b06381a01c40b34d8100adc0e30881342f80542f4044ee419034003029c18050c66049c654ee0644558634554624edc61007c604ed85b0634170b684603140245505f4ed45e4ed05d34282811b85134d4504ecc5a06301e00100911b4142aa80c13284c0a484d13a807, 0x3864054eec0003a425386001132c044ee8232b300b53b8022f3c0742fc0a53bc0620980c20a0281d5c0919fc0814280d0bec240c1c353120030be82c⟩,
  ⟨1, 2, 0x53b05253ac5453a82211bc530a804b13ac69455c0f209c1c53a41120981f385c06800000063c0a342c0153a01b06381a01c40b34d8100adc0e30881342f80542f4044ee419034003029c18050c66049c654ee0644558634554624edc61007c604ed85b0634170b684603140245505f4ed45e4ed05d34282811b85134d4504ecc5a06301e00100911b4142aa80c13284c0a484d13a807, 0x3864054eec0003a425386001132c044ee8232b300b53b8022f3c0742fc0a53bc0620980c20a0281d5c0919fc0814280d0bec240c28353120030be82c⟩,
  ⟨1, 2, 0x53b05253ac5453a82211bc530a804b13ac69455c0f209c1c53a41120981f385c06800000063c0a342c0153a01b06381a01c40b34d8100adc0e30881342f80542f4044ee419034003029c18050c66049c654ee0644558634554624edc61007c604ed85b0634170b684603140245505f4ed45e4ed05d34282811b85134d4504ecc5a06301e00100911b4142aa80c13284c0a484d13a807, 0x3864054eec0003a425386001132c044ee8232b300b53b8022f3c0742fc0a53bc0620980c20a0281d5c0919fc0814280d0bec240b70353120030be82c⟩,
  ⟨1, 2, 0x53b05253ac5453a82211bc530a804b13ac69455c0f209c1c53a41120981f385c06800000063c0a342c0153a01b06381a01c40b34d8100adc0e30881342f80542f4044ee419034003029c18050c66049c654ee0644558634554624edc61007c604ed85b0634170b684603140245505f4ed45e4ed05d34282811b85134d4504ecc5a06301e00100911b4142aa80c13284c0a484d13a807, 0x3864054eec0003a425386001132c044ee8232b300b53b8022f3c0742fc0a53bc0620980c20a0281d5c0919fc0814280d0bec240c38353120030be82c⟩,
  ⟨1, 2, 0x53b05253ac5453a82211bc530a804b13ac69455c0f209c1c53a41120981f385c06800000063c0a342c0153a01b06381a01c40b34d8100adc0e30881342f80542f4044ee419034003029c18050c66049c654ee0644558634554624edc61007c604ed85b0634170b684603140245505f4ed45e4ed05d34282811b85134d4504ecc5a06301e00100911b4142aa80c13284c0a484d13a807, 0x3864054eec0003a425386001132c044ee8232b300b53b8022f3c0742fc0a53bc0620980c20a0281d5c0919fc0814280d0bec240c3c353120030be82c⟩,
  ⟨1, 2, 0x53b05253ac5453a82211bc530a804b13ac69455c0f209c1c53a41120981f385c06800000063c0a342c0153a01b06381a01c40b34d8100adc0e30881342f80542f4044ee419034003029c18050c66049c654ee0644558634554624edc61007c604ed85b0634170b684603140245505f4ed45e4ed05d34282811b85134d4504ecc5a06301e00100911b4142aa80c13284c0a484d13a807, 0x3864054eec0003a425386001132c044ee8232b300b53b8022f3c0742fc0a53bc0620980c20a0281d5c0919fc0814280d0bec240ca0353120030be82c⟩,
  ⟨3, 2, 0x147c882b1887546832111c3858d43758e42213e87b11182302f026455c0f22dc1c189c8625202f55681122d08534a00680000006d80a034c8434900157201b074c16111015110c1202744e07581a021c0b3808100ac80e30f4134494054490044ee4191bd845010c0302981807381701900207348b2b3828047435038c2a11540911981441e80c2b342012b48f128c07, 0x45983d45942f44f005538c002b4c1b2b381e2b481a2b441d467c4338d8192b20183110172ab8163b882a43182e42dc01132c0422d0144590422c440b13302d556c02546c15306c07442c0a458c4134ec06189c3a18a00e1690091b880813542b342003⟩,
  ⟨1, 2, 0x53b05253ac5453a82211bc530a804b13ac69455c0f209c1c53a41120981f385c06800000063c0a342c0153a01b06381a01c40b34d8100adc0e30881342f80542f4044ee419034003029c18050c66049c654ee0644558634554624edc61007c604ed85b0634170b684603140245505f4ed45e4ed05d34282811b85134d4504ecc5a06301e00100911b4142aa80c13284c0a484d13a807, 0x3864054eec0003a425386001132c044ee8232b300b53b8022f3c0742fc0a53bc0620980c20a0281d5c0919fc0814280d0bec240d00353120030be82c⟩,
  ⟨1, 2, 0x53b05253ac5453a82211bc530a804b13ac69455c0f209c1c53a41120981f385c06800000063c0a342c0153a01b06381a01c40b34d8100adc0e30881342f80542f4044ee419034003029c18050c66049c654ee0644558634554624edc61007c604ed85b0634170b684603140245505f4ed45e4ed05d34282811b85134d4504ecc5a06301e00100911b4142aa80c13284c0a484d13a807, 0x3864054eec0003a425386001132c044ee8232b300b53b8022f3c0742fc0a53bc0620980c20a0281d5c0919fc0814280d0bec240d58353120030be82c⟩,
  ⟨1, 2, 0x53b05253ac5453a82211bc530a804b13ac69455c0f209c1c53a41120981f385c06800000063c0a342c0153a01b06381a01c40b34d8100adc0e30881342f80542f4044ee419034003029c18050c66049c654ee0644558634554624edc61007c604ed85b0634170b684603140245505f4ed45e4ed05d34282811b85134d4504ecc5a06301e00100911b4142aa80c13284c0a484d13a807, 0x3864054eec0003a425386001132c044ee8232b300b53b8022f3c0742fc0a53bc0620980c20a0281d5c0919fc0814280d0bec240d8c353120030be82c⟩,
  ⟨1, 2, 0x53b05253ac5453a82211bc530a804b13ac69455c0f209c1c53a41120981f385c06800000063c0a342c0153a01b06381a01c40b34d8100adc0e30881342f80542f4044ee419034003029c18050c66049c654ee0644558634554624edc61007c604ed85b0634170b684603140245505f4ed45e4ed05d34282811b85134d4504ecc5a06301e00100911b4142aa80c13284c0a484d13a807, 0x3864054eec0003a425386001132c044ee8232b300b53b8022f3c0742fc0a53bc0620980c20a0281d5c0919fc0814280d0bec240d90353120030be82c⟩,
  ⟨1, 2, 0x53b05253ac5453a82211bc530a804b13ac69455c0f209c1c53a41120981f385c06800000063c0a342c0153a01b06381a01c40b34d8100adc0e30881342f80542f4044ee419034003029c18050c66049c654ee0644558634554624edc61007c604ed85b0634170b684603140245505f4ed45e4ed05d34282811b85134d4504ecc5a06301e00100911b4142aa80c13284c0a484d13a807, 0x3864054eec0003a425386001132c044ee8232b300b53b8022f3c0742fc0a53bc0620980c20a0281d5c0919fc0814280d0bec240d94353120030be82c⟩,
  ⟨1, 2, 0x53b05253ac5453a82211bc530a804b13ac69455c0f209c1c53a41120981f385c06800000063c0a342c0153a01b06381a01c40b34d8100adc0e30881342f80542f4044ee419034003029c18050c66049c654ee0644558634554624edc61007c604ed85b0634170b684603140245505f4ed45e4ed05d34282811b85134d4504ecc5a06301e00100911b4142aa80c13284c0a484d13a807, 0x3864054eec0003a425386001132c044ee8232b300b53b8022f3c0742fc0a53bc0620980c20a0281d5c0919fc0814280d0bec240db4353120030be82c⟩,
  ⟨1, 2, 0x53b05253ac5453a82211bc530a804b13ac69455c0f209c1c53a41120981f385c06800000063c0a342c0153a01b06381a01c40b34d8100adc0e30881342f80542f4044ee419034003029c18050c66049c654ee0644558634554624edc61007c604ed85b0634170b684603140245505f4ed45e4ed05d34282811b85134d4504ecc5a06301e00100911b4142aa80c13284c0a484d13a807, 0x3864054eec0003a425386001132c044ee8232b300b53b8022f3c0742fc0a53bc0620980c20a0281d5c0919fc0814280d0bec240db8353120030be82c⟩,
  ⟨1, 2, 0x53b05253ac5453a82211bc530a804b13ac69455c0f209c1c53a41120981f385c06800000063c0a342c0153a01b06381a01c40b34d8100adc0e30881342f80542f4044ee419034003029c18050c66049c654ee0644558634554624edc61007c604ed85b0634170b684603140245505f4ed45e4ed05d34282811b85134d4504ecc5a06301e00100911b4142aa80c13284c0a484d13a807, 0x3864054eec0003a425386001132c044ee8232b300b53b8022f3c0742fc0a53bc0620980c20a0281d5c0919fc0814280d0bec240dbc353120030be82c⟩,
  ⟨1, 2, 0x53b05253ac5453a82211bc530a804b13ac69455c0f209c1c53a41120981f385c06800000063c0a342c0153a01b06381a01c40b34d8100adc0e30881342f80542f4044ee419034003029c18050c66049c654ee0644558634554624edc61007c604ed85b0634170b684603140245505f4ed45e4ed05d34282811b85134d4504ecc5a06301e00100911b4142aa80c13284c0a484d13a807, 0x3864054eec0003a425386001132c044ee8232b300b53b8022f3c0742fc0a53bc0620980c20a0281d5c0919fc0814280d0bec240dc0353120030be82c⟩,
  ⟨1, 2, 0x53b05253ac5453a82211d0530a984b140069455c0f209c1c53a41120981f385c06800000063c0a342c0153a01b06381a01d80b3834100ae80e31081342f80542f4044ee419034003029c18050c66049c654ee0644558634554624edc61007c6053185b0634170b68460314024e945f4ed45e53145d34282811cc5134d45053105a06301e00140911c8142aa80c13884c0a4c4d13fc07, 0x3a64054eec00226c25386001132c044ee8232b300b53b8022f3c0742fc0a53bc0620980c20a0281d5c0919fc0814280d0bec240c1c353120030be82c⟩,
  ⟨1, 2, 0x53b05253ac5453a82211d0530a984b140069455c0f209c1c53a41120981f385c06800000063c0a342c0153a01b06381a01d80b3834100ae80e31081342f80542f4044ee419034003029c18050c66049c654ee0644558634554624edc61007c6053185b0634170b68460314024e945f4ed45e53145d34282811cc5134d45053105a06301e00140911c8142aa80c13884c0a4c4d13fc07, 0x3a64054eec00226c25386001132c044ee8232b300b53b8022f3c0742fc0a53bc0620980c20a0281d5c0919fc0814280d0bec240c28353120030be82c⟩,
  ⟨1, 2, 0x53b05253ac5453a82211d4530a9c4b141869455c0f209c1c53a41120981f385c06800000063c0a342c0153a01b06381a01e40b3834100af00e31081342f80542f4044ee419034003029c18050c66049c654ee0644558634554624edc61007c6053805b0634170b68460314024ec05f4ed45e539c5d34282811dc5134d450537c5a06301e00140911e0142aa80c13a44c0a504d141407, 0x3aa4054eec00226c25386001132c044ee8232b300b53b8022f3c0742fc0a53bc0620980c20a0281d5c0919fc0814280d0bec244ea4353120030be82c⟩,
  ⟨1, 2, 0x53b05253ac5453a82211d0530a984b140069455c0f209c1c53a41120981f385c06800000063c0a342c0153a01b06381a01d80b3834100ae80e31081342f80542f4044ee419034003029c18050c66049c654ee0644558634554624edc61007c6053185b0634170b68460314024e945f4ed45e53145d34282811cc5134d45053105a06301e00140911c8142aa80c13884c0a4c4d13fc07, 0x3a64054eec00226c25386001132c044ee8232b300b53b8022f3c0742fc0a53bc0620980c20a0281d5c0919fc0814280d0bec240c38353120030be82c⟩,
  ⟨1, 2, 0x53b05253ac5453a82211d0530a984b140069455c0f209c1c53a41120981f385c06800000063c0a342c0153a01b06381a01d80b3834100ae80e31081342f80542f4044ee419034003029c18050c66049c654ee0644558634554624edc61007c6053185b0634170b68460314024e945f4ed45e53145d34282811cc5134d45053105a06301e00140911c8142aa80c13884c0a4c4d13fc07, 0x3a64054eec00226c25386001132c044ee8232b300b53b8022f3c0742fc0a53bc0620980c20a0281d5c0919fc0814280d0bec240c3c353120030be82c⟩,
  ⟨1, 2, 0x53b05253ac5453a82211d0530a984b140069455c0f209c1c53a41120981f385c06800000063c0a342c0153a01b06381a01d80b3834100ae80e31081342f80542f4044ee419034003029c18050c66049c654ee0644558634554624edc61007c6053185b0634170b68460314024e945f4ed45e53145d34282811cc5134d45053105a06301e00140911c8142aa80c13884c0a4c4d13fc07, 0x3a64054eec00226c25386001132c044ee8232b300b53b8022f3c0742fc0a53bc0620980c20a0281d5c0919fc0814280d0bec240ca0353120030be82c⟩,
  ⟨3, 2, 0x147c882b1887546832111c3858d43758e42213e87b11182302f026455c0f22dc1c189c8625202f55681122d08534a00680000006d80a034c8434900157201b074c16111015110c1202744e07581a021c0b3808100ac80e30f4134494054490044ee419172045010c0302981807381701900207348b2b3828047435038c2a11540911981441e80c2b342012b48f128c07, 0x45983d4d602f44f005538c002b4c1b2b381e2b481a2b441d467c4338d8192b20183110172ab8163b882a43182e42dc01132c0422d0144d5c422c440b13302d556c02546c15306c07442c0a458c4134ec06189c3a18a00e1690091c800813542b342003⟩,
  ⟨1, 2, 0x53b05253ac5453a82211d0530a984b140069455c0f209c1c53a41120981f385c06800000063c0a342c0153a01b06381a01d80b3834100ae80e31081342f80542f4044ee419034003029c18050c66049c654ee0644558634554624edc61007c6053185b0634170b68460314024e945f4ed45e53145d34282811cc5134d45053105a06301e00140911c8142aa80c13884c0a4c4d13fc07, 0x3a64054eec00226c25386001132c044ee8232b300b53b8022f3c0742fc0a53bc0620980c20a0281d5c0919fc0814280d0bec240d00353120030be82c⟩,
  ⟨1, 2, 0x53b05253ac5453a82211d0530a984b140069455c0f209c1c53a41120981f385c06800000063c0a342c0153a01b06381a01d80b3834100ae80e31081342f80542f4044ee419034003029c18050c66049c654ee0644558634554624edc61007c6053185b0634170b68460314024e945f4ed45e53145d34282811cc5134d45053105a06301e00140911c8142aa80c13884c0a4c4d13fc07, 0x3a64054eec00226c25386001132c044ee8232b300b53b8022f3c0742fc0a53bc0620980c20a0281d5c0919fc0814280d0bec240d58353120030be82c⟩,
  ⟨1, 2, 0x53b05253ac5453a82211d0530a984b140069455c0f209c1c53a41120981f385c06800000063c0a342c0153a01b06381a01d80b3834100ae80e31081342f80542f4044ee419034003029c18050c66049c654ee0644558634554624edc61007c6053185b0634170b68460314024e945f4ed45e53145d34282811cc5134d45053105a06301e00140911c8142aa80c13884c0a4c4d13fc07, 0x3a64054eec00226c25386001132c044ee8232b300b53b8022f3c0742fc0a53bc0620980c20a0281d5c0919fc0814280d0bec240d8c353120030be82c⟩,
  ⟨1, 2, 0x53b05253ac5453a82211d0530a984b140069455c0f209c1c53a41120981f385c06800000063c0a342c0153a01b06381a01d80b3834100ae80e31081342f80542f4044ee419034003029c18050c66049c654ee0644558634554624edc61007c6053185b0634170b68460314024e945f4ed45e53145d34282811cc5134d45053105a06301e00140911c8142aa80c13884c0a4c4d13fc07, 0x3a64054eec00226c25386001132c044ee8232b300b53b8022f3c0742fc0a53bc0620980c20a0281d5c0919fc0814280d0bec240d90353120030be82c⟩,
  ⟨1, 2, 0x53b05253ac5453a82211d0530a984b140069455c0f209c1c53a41120981f385c06800000063c0a342c0153a01b06381a01d80b3834100ae80e31081342f80542f4044ee419034003029c18050c66049c654ee0644558634554624edc61007c6053185b0634170b68460314024e945f4ed45e53145d34282811cc5134d45053105a06301e00140911c8142aa80c13884c0a4c4d13fc07, 0x3a64054eec00226c25386001132c044ee8232b300b53b8022f3c0742fc0a53bc0620980c20a0281d5c0919fc0814280d0bec240d94353120030be82c⟩,
  ⟨1, 2, 0x53b05253ac5453a82211d0530a984b140069455c0f209c1c53a41120981f385c06800000063c0a342c0153a01b06381a01d80b3834100ae80e31081342f80542f4044ee419034003029c18050c66049c654ee0644558634554624edc61007c6053185b0634170b68460314024e945f4ed45e53145d34282811cc5134d45053105a06301e00140911c8142aa80c13884c0a4c4d13fc07, 0x3a64054eec00226c25386001132c044ee8232b300b53b8022f3c0742fc0a53bc0620980c20a0281d5c0919fc0814280d0bec240db4353120030be82c⟩,
  ⟨1, 2, 0x53b05253ac5453a82211d0530a984b140069455c0f209c1c53a41120981f385c06800000063c0a342c0153a01b06381a01d80b3834100ae80e31081342f80542f4044ee419034003029c18050c66049c654ee0644558634554624edc61007c6053185b0634170b68460314024e945f4ed45e53145d34282811cc5134d45053105a06301e00140911c8142aa80c13884c0a4c4d13fc07, 0x3a64054eec00226c25386001132c044ee8232b300b53b8022f3c0742fc0a53bc0620980c20a0281d5c0919fc0814280d0bec240db8353120030be82c⟩,
  ⟨1, 2, 0x53b05253ac5453a82211d0530a984b140069455c0f209c1c53a41120981f385c06800000063c0a342c0153a01b06381a01d80b3834100ae80e31081342f80542f4044ee419034003029c18050c66049c654ee0644558634554624edc61007c6053185b0634170b68460314024e945f4ed45e53145d34282811cc5134d45053105a06301e00140911c8142aa80c13884c0a4c4d13fc07, 0x3a64054eec00226c25386001132c044ee8232b300b53b8022f3c0742fc0a53bc0620980c20a0281d5c0919fc0814280d0bec240dbc353120030be82c⟩,
  ⟨1, 2, 0x53b05253ac5453a82211d0530a984b140069455c0f209c1c53a41120981f385c06800000063c0a342c0153a01b06381a01d80b3834100ae80e31081342f80542f4044ee419034003029c18050c66049c654ee0644558634554624edc61007c6053185b0634170b68460314024e945f4ed45e53145d34282811cc5134d45053105a06301e00140911c8142aa80c13884c0a4c4d13fc07, 0x3a64054eec00226c25386001132c044ee8232b300b53b8022f3c0742fc0a53bc0620980c20a0281d5c0919fc0814280d0bec240dc0353120030be82c⟩]

/-- States 64 to 127. -/
def states0064 : List PackedRow := [
  ⟨3, 2, 0x147c882b1887546832111c3858d43758e42213e87b11182302f026455c0f22dc1c189c8625202f55681122d08534a00680000006d80a034c8434900157201b074c16111015110c1202744e07581a021c0b3808100ac80e30f4134494054490044ee4191f4c45010c0302981807381701900207348b2b3828047435038c2a11540911981441e80c2b342012b48f128c07, 0x45983d4d602f44f005538c002b4c1b2b381e2b481a2b441d467c4338d8192b20183110172ab8163b882a43182e42dc01132c0422d0144d5c422c440b13302d556c02546c15306c07442c0a458c4134ec06189c3a18a00e1690091c800813542b342003⟩,
  ⟨3, 2, 0x147c882b1887546832111c3858d43758e42213e87b11182302f026455c0f22dc1c189c8625202f55681122d08534a00680000006d80a034c8434900157201b074c16111015110c1202744e07581a021c0b3808100ac80e30f4134494054490044ee4191c7445010c0302981807381701900207348b2b3828047435038c2a11540911981441e80c2b342012b48f128c07, 0x45983d4d602f44f005538c002b4c1b2b381e2b481a2b441d467c4338d8192b20183110172ab8163b882a43182e42dc01132c0422d0144d5c422c440b13302d556c02546c15306c07442c0a458c4134ec06189c3a18a00e1690091c800813542b342003⟩,
  ⟨3, 2, 0x147c882b1887546832111c3858d43758e42213e87b11182302f026455c0f22dc1c189c8625202f55681122d08534a00680000006d80a034c8434900157201b074c16111015110c1202744e07581a021c0b3808100ac80e30f4134494054490044ee4191f7845010c0302981807381701900207348b2b3828047435038c2a11540911981441e80c2b342012b48f128c07, 0x45983d4d602f44f005538c002b4c1b2b381e2b481a2b441d467c4338d8192b20183110172ab8163b882a43182e42dc01132c0422d0144d5c422c440b13302d556c02546c15306c07442c0a458c4134ec06189c3a18a00e1690091c800813542b342003⟩,
  ⟨3, 2, 0x147c882b1887546832111c3858d43758e42213e87b11182302f026455c0f22dc1c189c8625202f55681122d08534a00680000006d80a034c8434900157201b074c16111015110c1202744e07581a021c0b3808100ac80e30f4134494054490044ee4191f8c45010c0302981807381701900207348b2b3828047435038c2a11540911981441e80c2b342012b48f128c07, 0x45983d4d602f44f005538c002b4c1b2b381e2b481a2b441d467c4338d8192b20183110172ab8163b882a43182e42dc01132c0422d0144d5c422c440b13302d556c02546c15306c07442c0a458c4134ec06189c3a18a00e1690091c800813542b342003⟩,
  ⟨3, 2, 0x147c882b1887546832111c3858d43758e42213e87b11182302f026455c0f22dc1c189c8625202f55681122d08534a00680000006d80a034c8434900157201b074c16111015110c1202744e07581a021c0b3808100ac80e30f4134494054490044ee419234845010c0302981807381701900207348b2b3828047435038c2a11540911981441e80c2b342012b48f128c07, 0x45983d45942f44f005538c002b4c1b2b381e2b481a2b441d467c4338d8192b20183110172ab8163b882a43182e42dc01132c0422d0144590422c440b13302d556c02546c15306c07442c0a458c4134ec06189c3a18a00e1690091b880813542b342003⟩,
  ⟨3, 2, 0x147c882b1887546832111c3858d43758e42213e87b11182302f026455c0f22dc1c189c8625202f55681122d08534a00680000006d80a034c8434900157201b074c16111015110c1202744e07581a021c0b3808100ac80e30f4134494054490044ee419235845010c0302981807381701900207348b2b3828047435038c2a11540911981441e80c2b342012b48f128c07, 0x45983d4d602f44f005538c002b4c1b2b381e2b481a2b441d467c4338d8192b20183110172ab8163b882a43182e42dc01132c0422d0144d5c422c440b13302d556c02546c15306c07442c0a458c4134ec06189c3a18a00e1690091c800813542b342003⟩,
  ⟨3, 2, 0x147c882b1887546832111c3858d43758e42213e87b11182302f026455c0f22dc1c189c8625202f55681122d08534a00680000006d80a034c8434900157201b074c16111015110c1202744e07581a021c0b3808100ac80e30f4134494054490044ee419256045010c0302981807381701900207348b2b3828047435038c2a11540911981441e80c2b342012b48f128c07, 0x45983d4d602f44f005538c002b4c1b2b381e2b481a2b441d467c4338d8192b20183110172ab8163b882a43182e42dc01132c0422d0144d5c422c440b13302d556c02546c15306c07442c0a458c4134ec06189c3a18a00e1690091c800813542b342003⟩,
  ⟨3, 2, 0x147c882b1887546832111c3858d43758e42213e87b11182302f026455c0f22dc1c189c8625202f55681122d08534a00680000006d80a034c8434900157201b074c16111015110c1202744e07581a021c0b3808100ac80e30f4134494054490044ee4191c7c45010c0302981807381701900207348b2b382804743503942a11540911981441e80c2b342012b48f128c07, 0x45983d4d602f44f005538c002b4c1b2b381e2b481a2b441d4dfc4338d8192b20183110172ab8163b882a43182e42dc01132c0422d0144d5c422c440b13302d556c02546c15306c07442c0a458c4134ec06189c3a18a00e1690091c800813542b342003⟩,
  ⟨1, 2, 0x53b05253ac5453a82211d4530a9c4b141869455c0f209c1c53a41120981f385c06800000063c0a342c0153a01b06381a01e40b3834100af00e31081342f80542f4044ee419034003029c18050c66049c654ee0644558634554624edc61007c6053805b0634170b68460314024ec05f4ed45e539c5d34282811dc5134d450537c5a06301e00140911e0142aa80c13a44c0a504d141407, 0x3aa4054eec00226c25386001132c044ee8232b300b53b8022f3c0742fc0a53bc0620980c20a0281d5c0919fc0814280d0bec240c1c353120030be82c⟩,
  ⟨1, 2, 0x53b05253ac5453a82211d4530a9c4b141869455c0f209c1c53a41120981f385c06800000063c0a342c0153a01b06381a01e40b3834100af00e31081342f80542f4044ee419034003029c18050c66049c654ee0644558634554624edc61007c6053805b0634170b68460314024ec05f4ed45e539c5d34282811dc5134d450537c5a06301e00140911e0142aa80c13a44c0a504d141407, 0x3aa4054eec00226c25386001132c044ee8232b300b53b8022f3c0742fc0a53bc0620980c20a0281d5c0919fc0814280d0bec240c28353120030be82c⟩,
  ⟨1, 2, 0x53b05253ac5453a82211d4530a9c4b141869455c0f209c1c53a41120981f385c06800000063c0a342c0153a01b06381a01e40b3834100af00e31081342f80542f4044ee419034003029c18050c66049c654ee0644558634554624edc61007c6053805b0634170b68460314024ec05f4ed45e539c5d34282811dc5134d450537c5a06301e00140911e0142aa80c13a44c0a504d141407, 0x3aa4054eec00226c25386001132c044ee8232b300b53b8022f3c0742fc0a53bc0620980c20a0281d5c0919fc0814280d0bec240c38353120030be82c⟩,
  ⟨1, 2, 0x53b05253ac5453a82211d4530a9c4b141869455c0f209c1c53a41120981f385c06800000063c0a342c0153a01b06381a01e40b3834100af00e31081342f80542f4044ee419034003029c18050c66049c654ee0644558634554624edc61007c6053805b0634170b68460314024ec05f4ed45e539c5d34282811dc5134d450537c5a06301e00140911e0142aa80c13a44c0a504d141407, 0x3aa4054eec00226c25386001132c044ee8232b300b53b8022f3c0742fc0a53bc0620980c20a0281d5c0919fc0814280d0bec240c3c353120030be82c⟩,
  ⟨1, 2, 0x53b05253ac5453a82211d4530a9c4b141869455c0f209c1c53a41120981f385c06800000063c0a342c0153a01b06381a01e40b3834100af00e31081342f80542f4044ee419034003029c18050c66049c654ee0644558634554624edc61007c6053805b0634170b68460314024ec05f4ed45e539c5d34282811dc5134d450537c5a06301e00140911e0142aa80c13a44c0a504d141407, 0x3aa4054eec00226c25386001132c044ee8232b300b53b8022f3c0742fc0a53bc0620980c20a0281d5c0919fc0814280d0bec240ca0353120030be82c⟩,
  ⟨1, 2, 0x53b05253ac5453a82211d4530a9c4b141869455c0f209c1c53a41120981f385c06800000063c0a342c0153a01b06381a01e40b3834100af00e31081342f80542f4044ee419034003029c18050c66049c654ee0644558634554624edc61007c6053805b0634170b68460314024ec05f4ed45e539c5d34282811dc5134d450537c5a06301e00140911e0142aa80c13a44c0a504d141407, 0x3aa4054eec00226c25386001132c044ee8232b300b53b8022f3c0742fc0a53bc0620980c20a0281d5c0919fc0814280d0bec240d00353120030be82c⟩,
  ⟨1, 2, 0x53b05253ac5453a82211d4530a9c4b141869455c0f209c1c53a41120981f385c06800000063c0a342c0153a01b06381a01e40b3834100af00e31081342f80542f4044ee419034003029c18050c66049c654ee0644558634554624edc61007c6053805b0634170b68460314024ec05f4ed45e539c5d34282811dc5134d450537c5a06301e00140911e0142aa80c13a44c0a504d141407, 0x3aa4054eec00226c25386001132c044ee8232b300b53b8022f3c0742fc0a53bc0620980c20a0281d5c0919fc0814280d0bec240d58353120030be82c⟩,
  ⟨1, 2, 0x53b05253ac5453a82211d4530a9c4b141869455c0f209c1c53a41120981f385c06800000063c0a342c0153a01b06381a01e40b3834100af00e31081342f80542f4044ee419034003029c18050c66049c654ee0644558634554624edc61007c6053805b0634170b68460314024ec05f4ed45e539c5d34282811dc5134d450537c5a06301e00140911e0142aa80c13a44c0a504d141407, 0x3aa4054eec00226c25386001132c044ee8232b300b53b8022f3c0742fc0a53bc0620980c20a0281d5c0919fc0814280d0bec240d8c353120030be82c⟩,
  ⟨1, 2, 0x53b05253ac5453a82211d4530a9c4b141869455c0f209c1c53a41120981f385c06800000063c0a342c0153a01b06381a01e40b3834100af00e31081342f80542f4044ee419034003029c18050c66049c654ee0644558634554624edc61007c6053805b0634170b68460314024ec05f4ed45e539c5d34282811dc5134d450537c5a06301e00140911e0142aa80c13a44c0a504d141407, 0x3aa4054eec00226c25386001132c044ee8232b300b53b8022f3c0742fc0a53bc0620980c20a0281d5c0919fc0814280d0bec240d90353120030be82c⟩,
  ⟨1, 2, 0x53b05253ac5453a82211d4530a9c4b141869455c0f209c1c53a41120981f385c06800000063c0a342c0153a01b06381a01e40b3834100af00e31081342f80542f4044ee419034003029c18050c66049c654ee0644558634554624edc61007c6053805b0634170b68460314024ec05f4ed45e539c5d34282811dc5134d450537c5a06301e00140911e0142aa80c13a44c0a504d141407, 0x3aa4054eec00226c25386001132c044ee8232b300b53b8022f3c0742fc0a53bc0620980c20a0281d5c0919fc0814280d0bec240d94353120030be82c⟩,
  ⟨1, 2, 0x53b05253ac5453a82211d4530a9c4b141869455c0f209c1c53a41120981f385c06800000063c0a342c0153a01b06381a01e40b3834100af00e31081342f80542f4044ee419034003029c18050c66049c654ee0644558634554624edc61007c6053805b0634170b68460314024ec05f4ed45e539c5d34282811dc5134d450537c5a06301e00140911e0142aa80c13a44c0a504d141407, 0x3aa4054eec00226c25386001132c044ee8232b300b53b8022f3c0742fc0a53bc0620980c20a0281d5c0919fc0814280d0bec240db4353120030be82c⟩,
  ⟨1, 2, 0x53b05253ac5453a82211d4530a9c4b141869455c0f209c1c53a41120981f385c06800000063c0a342c0153a01b06381a01e40b3834100af00e31081342f80542f4044ee419034003029c18050c66049c654ee0644558634554624edc61007c6053805b0634170b68460314024ec05f4ed45e539c5d34282811dc5134d450537c5a06301e00140911e0142aa80c13a44c0a504d141407, 0x3aa4054eec00226c25386001132c044ee8232b300b53b8022f3c0742fc0a53bc0620980c20a0281d5c0919fc0814280d0bec240db8353120030be82c⟩,
  ⟨1, 2, 0x53b05253ac5453a82211d4530a9c4b141869455c0f209c1c53a41120981f385c06800000063c0a342c0153a01b06381a01e40b3834100af00e31081342f80542f4044ee419034003029c18050c66049c654ee0644558634554624edc61007c6053805b0634170b68460314024ec05f4ed45e539c5d34282811dc5134d450537c5a06301e00140911e0142aa80c13a44c0a504d141407, 0x3aa4054eec00226c25386001132c044ee8232b300b53b8022f3c0742fc0a53bc0620980c20a0281d5c0919fc0814280d0bec240dbc353120030be82c⟩,
  ⟨1, 2, 0x53b05253ac5453a82211d4530a9c4b141869455c0f209c1c53a41120981f385c06800000063c0a342c0153a01b06381a01e40b3834100af00e31081342f80542f4044ee419034003029c18050c66049c654ee0644558634554624edc61007c6053805b0634170b68460314024ec05f4ed45e539c5d34282811dc5134d450537c5a06301e00140911e0142aa80c13a44c0a504d141407, 0x3aa4054eec00226c25386001132c044ee8232b300b53b8022f3c0742fc0a53bc0620980c20a0281d5c0919fc0814280d0bec240dc0353120030be82c⟩,
  ⟨1, 2, 0x53b05253ac5453a82211d4530a9c4b141869455c0f209c1c53a41120981f385c06800000063c0a342c0153a01b06381a01e40b3834100af00e31081342f80542f4044ee419034003029c18050c66049c654ee0644558634554624edc61007c6053805b0634170b68460314024ec05f4ed45e539c5d34282811dc5134d450537c5a06301e00140911e0142aa80c13a44c0a504d141407, 0x3aa4054eec00226c25386001132c044ee8232b300b53b8022f3c0742fc0a53bc0620980c20a0281d5c0919fc0814280d0bec244ec4353120030be82c⟩,
  ⟨4, 4, 0x800c23455c0f1f9c1c57741120981f385c0680000007bc0a34900153a01b80082b08181a01c00b05102534e4100ad80e30901342f80542f40453f81d4ee41903400302b81880382408141703140208101e1d6c3416140911ac14069c083abc0c8004ed135821138407, 0x45d82145d41f430c054eec00386001132c042c480b577802306c07442c0a55700620980c18a00e1a140924a00813f80d312003⟩,
  ⟨4, 4, 0x800c23455c0f1f9c1c57741120981f385c0680000007bc0a34900153a01b80082b08181a01c00b05102534e4100ad80e30901342f80542f40453f81d4ee41903400302b81880382408141703140208101e19bc3416140911ac14069c083abc0c8004ed135821138407, 0x45d8214d701f430c054eec00386001132c042c480b577802306c07442c0a55700620980c18a00e1a140924a00813f80d312003⟩,
  ⟨4, 4, 0x800c23455c0f1f9c1c57741120981f385c0680000007bc0a34900153a01b80082b08181a01c00b05102534e4100ad80e30901342f80542f40453f81d4ee41903400302b81880382408141703140208101e1ab83416140911ac14069c083abc0c8004ed135821138407, 0x45d8214d701f430c054eec00386001132c042c480b577802306c07442c0a55700620980c18a00e1a140924a00813f80d312003⟩,
  ⟨4, 3, 0x455c0f18901c577411189c1f39b40680000007bc0a34900157201b80082b08181a01680b05a0253808100aa00e30f41344940544900455881d4ee41903500302b81808141703180208101e16180911701407c00841e80c8005b6122421122807, 0x44f0054eec00386001132c042c480b577802306c07442c0a557006189c0c18a00e163c0925640812840d337403⟩,
  ⟨4, 3, 0x803023455c0f1c201c20e42f577411189c7681a40680000081300a81a001812c1b064c4e80082b08181a01a00b0564253808100acc0e30f4134494054490044ee419819c0302b8180814178198028128d90810d8805ca6162009119c1480bc0841e80c8004ba12d42112d807, 0x44f0054eec0034f02a3af42e386001132c042c480b135c2d577802306c07442c0a383806189c0c18a00e16900925640812842b337403⟩,
  ⟨4, 3, 0x455c0f1c201c21502f577411189c7681a40680000081300a81a001812c1b064c4e80082b08181a01a00b05a0253808100acc0e30f4134494054490044ee419819c0302b8180814178198028128d90810d88030c0162009119c1480b40841e80c8004ba12d42112d807, 0x44f0054eec0034f02a3b482e386001132c042c480b135c2d577802306c07442c0a383806189c0c18a00e16900925640812842b337403⟩,
  ⟨4, 3, 0x455c0f1c201c21542f577411189c7681a40680000081300a81a001812c1b064c4e80082b08181a01a00b05a0253808100acc0e30f4134494054490044ee419819c0302b8180814178198028128d90810d88030c0162009119c1480b40841e80c8004ba12d42112d807, 0x44f0054eec0034f02a3b4c2e386001132c042c480b135c2d577802306c07442c0a383806189c0c18a00e16900925640812842b337403⟩,
  ⟨3, 2, 0x147c882b18875468320f003854643754602213647b04a44904a0560efc23000c264d3c0f1e381c189c861e342f556811232c8534b00680000006d80a034c8434900157201b0748160ef4150ef012064c4e07581a01d40b3808100ac80e30f4134494054490044ee41901080302981807381745844a01900207348b2b382804703511500911981441e80c2b342012b4da12e407, 0x40c054f94002b4c1b2b381e2b481a2b441d439c192b20182b1c1734f44604a822044c272ab81634f02a3ac02e3b2001132c04232c1453e0232c440b13302d458845556c02546c15306c07442c0a34ec06189c3a18a00e16900918940813542b339c03⟩,
  ⟨4, 3, 0x455c0f1c201c21d02f577411189c7681a40680000081300a81a001812c1b064c4e80082b08181a01a00b05a0253808100acc0e30f4134494054490044ee419819c0302b8180814178198028128d90810d88030c0162009119c1480b40841e80c8004ba12d42112d807, 0x44f0054eec0034f02a3bb42e386001132c042c480b135c2d577802306c07442c0a383806189c0c18a00e16900925640812842b337403⟩,
  ⟨4, 3, 0x455c0f1c201c21d42f577411189c7681a40680000081300a81a001812c1b064c4e80082b08181a01a00b05a0253808100acc0e30f4134494054490044ee419819c0302b8180814178198028128d90810d88030c0162009119c1480b40841e80c8004ba12d42112d807, 0x44f0054eec0034f02a3bb82e386001132c042c480b135c2d577802306c07442c0a383806189c0c18a00e16900925640812842b337403⟩,
  ⟨4, 3, 0x455c0f1c201c21dc2f577411189c7681a40680000081300a81a001812c1b064c4e80082b08181a01a00b05a0253808100acc0e30f4134494054490044ee419819c0302b8180814178198028128d90810d88030c0162009119c1480b40841e80c8004ba12d42112d807, 0x44f0054eec0034f02a3bc02e386001132c042c480b135c2d577802306c07442c0a383806189c0c18a00e16900925640812842b337403⟩,
  ⟨4, 3, 0x455c0f1c201c22282f577411189c7681a40680000081300a81a001812c1b064c4e80082b08181a01a00b05a0253808100acc0e30f4134494054490044ee419819c0302b8180814178198028128d90810d88030c0162009119c1480b40841e80c8004ba12d42112d807, 0x44f0054eec0034f02a3c042e386001132c042c480b135c2d577802306c07442c0a383806189c0c18a00e16900925640812842b337403⟩,
  ⟨4, 3, 0x455c0f1c201c20e42f577411189c7681a40680000081300a81a001812c1b064c4e80082b08181a01a00b05a0253808100acc0e30f4134494054490044ee419819c0302b8180814178198028128d90810d88030c0162009119c1480b40841e80c8004ba12d42112d807, 0x44f0054eec0034f02a3af42e386001132c042c480b135c2d577802306c07442c0a383806189c0c18a00e16900925640812842b337403⟩,
  ⟨3, 2, 0x147c882b18875468320f003854643754602213647b04a44904a0560efc23000c264d3c0f1e381c189c861e342f556811232c8534b00680000006d80a034c8434900157201b0748160ef4150ef012064c4e07581a01d40b3808100ac80e30f4134494054490044ee41901080302981807381745844a01900207348b2b382804703511500911981441e80c2b342012b4da12e407, 0x40c054f94002b4c1b2b381e2b481a2b441d439c192b20182b1c1734f44604a822044c272ab81634f02a3ac02e3b2001132c04232c1455e8232c440b13302d458845556c02546c15306c07442c0a34ec06189c3a18a00e16900919f00813542b339c03⟩,
  ⟨3, 2, 0x147c882b18875468320f003854643754602213647b04a44904a0560efc23000c264d3c0f1e381c189c861e342f556811232c8534b00680000006d80a034c8434900157201b0748160ef4150ef012064c4e07581a01d40b3808100ac80e30f4134494054490044ee41901080302981807381745844a01900207348b2b382804703511500911981441e80c2b342012b4da12e407, 0x40c054f94002b4c1b2b381e2b481a2b441d4484192b20182b1c1734f44604a822044c272ab81634f02a3ac02e3b2001132c04232c1455e8232c440b13302d458845556c02546c15306c07442c0a34ec06189c3a18a00e16900919f00813542b339c03⟩,
  ⟨4, 3, 0x803023455c0f18901c577411189c1f39b40680000007bc0a34900157201b80082b08181a01680b0564253808100aa00e30f41344940544900455881d4ee41903540302b81808141703180208101e805cc1161c0911701480bc0841e80c800499122421122807, 0x44f0054eec00386001132c042c480b577802306c07442c0a557006189c0c18a00e163c0925640812840d337403⟩,
  ⟨3, 2, 0x147c882b18875468320f003854643754602213407b04c44904c0560efc230008264d3c0f1db81c189c861db42f57741122d08534a00680000007bc0a03988434900157201b0744160ef4150ef012064c4e08181a01d00b3808100acc0e30f4134494054490044ee41901000302b81808141745844a01900208108b2b3828046c35114809119c1441e80c2b342012d4da12cc07, 0x40c054f94002b4c1b2b381e2b481a2b441d439c192b20182b1c1734f44604a822044c272ab81634f02a3ac02e3b2001132c0422d0142c480b135c2d458845577802546c15306c07442c0a383806189c3a18a00e16900925640812842b33d403⟩,
  ⟨4, 3, 0x455c0f18901c577411189c1f39b40680000007bc0a34900157201b80082b08181a01680b05a0253808100aa00e30f41344940544900455881d4ee41903500302b81808141703180208101e8030a316180911701480b40841e80c800499122421122807, 0x44f0054eec00386001132c042c480b577802306c07442c0a557006189c0c18a00e163c0925640812840d337403⟩,
  ⟨4, 3, 0x455c0f18901c577411189c1f39b40680000007bc0a34900157201b80082b08181a01680b05a0253808100aa00e30f41344940544900455881d4ee41903500302b81808141703180208101e8070a316180911701407c00841e80c800499122421122807, 0x44f0054eec00386001132c042c480b577802306c07442c0a557006189c0c18a00e163c0925640812840d337403⟩,
  ⟨4, 3, 0x455c0f18901c577411189c1f39b40680000007bc0a34900157201b80082b08181a01680b0564253808100aa00e30f41344940544900455881d4ee41903540302b81808141703180208101e161c0911701406dc0841e80c800557122421122807, 0x44f0055030003b8c01132c042c480b577802306c07442c0a557006189c0c18a00e163c0925640812840d337403⟩,
  ⟨4, 3, 0x455c0f18901c577411189c1f39b40680000007bc0a34900157201b80082b08181a01680b0564253808100aa00e30f41344940544900455881d4ee41903540302b81808141703180208101e161c0911701406dc0841e80c800557122421122807, 0x44f0054eec00386001132c042c480b577802306c07442c0a557006189c0c18a00e163c0925640812840d337403⟩,
  ⟨3, 2, 0x147c882b18875468320f003854643754602213407b04c44904c0560efc230008264d3c0f1db81c189c861db42f57741122d08534a00680000007bc0a03988434900157201b0744160ef4150ef012064c4e08181a01d00b3808100acc0e30f4134494054490044ee41901000302b81808141745844a01900208108b2b3828046c35114809119c1441e80c2b342012d4da12cc07, 0x40c054f94002b4c1b2b381e2b481a2b441d4460192b20182b1c1734f44604a822044c272ab81634f02a3ac02e3b2001132c0422d0142c480b135c2d458845577802546c15306c07442c0a383806189c3a18a00e16900925640812842b33d403⟩,
  ⟨3, 2, 0x147c882b18875468320f003854643754602213407b04c44904c0560efc230008264d3c0f1db81c189c861db42f57741122d08534a00680000007bc0a03988434900157201b0744160ef4150ef012064c4e08181a01d00b3808100acc0e30f4134494054490044ee41901000302b81808141745844a01900208108b2b3828046c35114809119c1441e80c2b342012d4da12cc07, 0x40c054f94002b4c1b2b381e2b481a2b441d4484192b20182b1c1734f44604a822044c272ab81634f02a3ac02e3b2001132c0422d0142c480b135c2d458845577802546c15306c07442c0a383806189c3a18a00e16900925640812842b33d403⟩,
  ⟨3, 2, 0x147c882b18875468320f003854643754602213407b04c44904c0560efc230008264d3c0f1db81c189c861db42f57741122d08534a00680000007bc0a03988434900157201b0744160ef4150ef012064c4e08181a01d00b3808100acc0e30f4134494054490044ee41901000302b81808141745844a01900208108b2b3828046c35114809119c1441e80c2b342012d4da12cc07, 0x40c054f94002b4c1b2b381e2b481a2b441d44a4192b20182b1c1734f44604a822044c272ab81634f02a3ac02e3b2001132c0422d0142c480b135c2d458845577802546c15306c07442c0a383806189c3a18a00e16900925640812842b33d403⟩,
  ⟨3, 2, 0x147c882b18875468320f003854643754602213407b04c44904c0560efc230008264d3c0f1db81c189c861db42f57741122d08534a00680000007bc0a03988434900157201b0744160ef4150ef012064c4e08181a01d00b3808100acc0e30f4134494054490044ee41901000302b81808141745844a01900208108b2b3828046c35114809119c1441e80c2b342012d4da12cc07, 0x40c054f94002b4c1b2b381e2b481a2b441d44c4192b20182b1c1734f44604a822044c272ab81634f02a3ac02e3b2001132c0422d0142c480b135c2d458845577802546c15306c07442c0a383806189c3a18a00e16900925640812842b33d403⟩,
  ⟨4, 4, 0x455c0f18901c577411189c1f39b40680000007bc0a34900157201b80082b08181a01680b05a0253808100aa00e30f41344940544900453f81d4ee41903500302b81808141703180208101e16180911701407c00841e80c8005b7122421122807, 0x44f0054eec00386001132c042c480b577802306c07442c0a557006189c0c18a00e163c0925640812840d337403⟩,
  ⟨4, 4, 0x455c0f1f9c1c57741120981f385c0680000007bc0a34900153a01b80082b08181a01c00b05102534e4100ad80e30901342f80542f40453f81d4ee41903400302b81800802408141703140208101e16140911ac140644083abc0c8004ed135821138407, 0x430c054eec00386001132c042c480b577802306c07442c0a55700620980c18a00e1a140924a00813f80d312003⟩,
  ⟨4, 4, 0x455c0f1f9c1c57741120981f385c0680000007bc0a34900153a01b80082b08181a01c00b05102534e4100ad80e30901342f80542f40453f81d4ee41903400302b81808141703140208101e16140911ac140644083abc0c800558135821138407, 0x430c054eec00386001132c042c480b577802306c07442c0a55700620980c18a00e1a140924a00813f80d312003⟩,
  ⟨4, 4, 0x455c0f1f9c1c57741120981f385c0680000007bc0a34900153a01b80082b08181a01c00b05102534e4100ad80e30901342f80542f40453f81d4ee41903400302b81808141703140208101e16140911ac140644083abc0c800558135821138407, 0x430c055030003b8c01132c042c480b577802306c07442c0a55700620980c18a00e1a140924a00813f80d312003⟩,
  ⟨4, 3, 0x455c0f18901c577411189c1f39b40680000007bc0a34900157201b80082b08181a01680b05a0253808100aa00e30f41344940544900455881d4ee41903500302b81808141703180208101e8030c016180911701480b40841e80c800499122421122807, 0x44f0055030003b8c01132c042c480b577802306c07442c0a557006189c0c18a00e163c0925640812840d337403⟩,
  ⟨4, 3, 0x803023455c0f18901c577411189c1f39b40680000007bc0a34900157201b80082b08181a01680b0564253808100aa00e30f41344940544900455881d4ee41903540302b81808141703180208101e805ca6161c0911701480bc0841e80c800499122421122807, 0x44f0055030003b8c01132c042c480b577802306c07442c0a557006189c0c18a00e163c0925640812840d337403⟩,
  ⟨4, 4, 0x455c0f1f9c1c57741120981f385c0680000007bc0a34900153a01b80082b08181a01c00b05102534e4100ad80e30901342f80542f40453f81d4ee41903400302b81800c02408141703140208101e16140911ac140644083abc0c8004ed135821138407, 0x430c054eec00386001132c042c480b577802306c07442c0a55700620980c18a00e1a140924a00813f80d312003⟩,
  ⟨4, 4, 0x455c0f1f9c1c57741120981f385c0680000007bc0a34900157b01b80082b08181a01c00b05b82534e4100ad80e30901342f80542f40453f81d4ee41903400302b81808141703140208101e16140911ac14081c083abc0c800559135821138407, 0x430c054eec00386001132c042c480b577802306c07442c0a55700620980c18a00e1a140924a00813f80d312003⟩,
  ⟨4, 4, 0x455c0f1f9c1c57741120981f385c0680000007bc0a34900157b01b80082b08181a01c00b05b82534e4100ad80e30901342f80542f40453f81d4ee41903400302b81808141703140208101e16140911ac14081c083abc0c800559135821138407, 0x430c055030003b8c01132c042c480b577802306c07442c0a55700620980c18a00e1a140924a00813f80d312003⟩,
  ⟨4, 4, 0x455c0f1f9c1c57741120981f385c0680000007bc0a34900153a01b80082b08181a01c00b05102534e4100ad80e30901342f80542f40453f81d4ee41903400302b81801202408141703140208101e16140911ac140644083abc0c8004ed135821138407, 0x430c054eec00386001132c042c480b577802306c07442c0a55700620980c18a00e1a140924a00813f80d312003⟩,
  ⟨4, 3, 0x455c0f18901c577411189c1f39b40680000007bc0a34900157201b80082b08181a01680b0564253808100aa00e30f41344940544900455881d4ee41903540302b81808141703180208101e8160db161c0911701406dc0841e80c800499122421122807, 0x44f0054eec00386001132c042c480b577802306c07442c0a557006189c0c18a00e163c0925640812840d337403⟩,
  ⟨4, 3, 0x455c0f18901c577411189c1f39b40680000007bc0a34900157201b80082b08181a01680b0564253808100aa00e30f41344940544900455881d4ee41903540302b81805448981347e08141703180208101e161c0911701406dc0841e80c8005b8122421122807, 0x44f0054eec00386001132c042c480b577802306c07442c0a557006189c0c18a00e163c0925640812840d337403⟩,
  ⟨4, 3, 0x455c0f18901c577411189c1f39b40680000007bc0a34900157201b80082b08181a01680b05e8253808100aa00e30f41344940544900455881d4ee419805c4503540302b8180f2c2408141703180208101e80302a161c0911701481a80841e80c800499122421122807, 0x44f0054eec00386001132c042c480b577802306c07442c0a557006189c0c18a00e163c0925640812840d337403⟩,
  ⟨4, 3, 0x455c0f18901c577411189c1f39b40680000007bc0a34900157201b80082b08181a01680b0564253808100aa00e30f41344940544900455881d4ee41903540302b81880702408141703180208101e81609a161c0911701406dc0841e80c800499122421122807, 0x44f0055030003b8c01132c042c480b577802306c07442c0a557006189c0c18a00e163c0925640812840d337403⟩,
  ⟨4, 3, 0x455c0f18901c577411189c1f39b40680000007bc0a34900157201b80082b08181a01680b05e8253808100aa00e30f41344940544900455881d4ee41903540302b8180f2c2408141703180208101e161c0911701408d40841e80c80051b122421122807, 0x44f0054eec00386001132c042c480b577802306c07442c0a557006189c0c18a00e163c0925640812840d337403⟩,
  ⟨4, 3, 0x455c0f18901c577411189c1f39b40680000007bc0a34900157201b80082b08181a01680b05e8253808100aa00e30f41344940544900455881d4ee41903540302b8180f502408141703180208101e161c0911701408d40841e80c80051b122421122807, 0x44f0054eec00386001132c042c480b577802306c07442c0a557006189c0c18a00e163c0925640812840d337403⟩]

/-- States 128 to 191. -/
def states0128 : List PackedRow := [
  ⟨4, 3, 0x455c0f18901c577411189c1f39b40680000007bc0a34900157201b80082b08181a01680b05e8253808100aa00e30f41344940544900455881d4ee419805c4503540302b81808141703180208101e80302a161c0911701481a80841e80c800499122421122807, 0x44f0054eec00386001132c042c480b577802306c07442c0a557006189c0c18a00e163c0925640812840d337403⟩,
  ⟨4, 3, 0x455c0f18901c577411189c1f39b40680000007bc0a34900157201b80082b08181a01680b0564253808100aa00e30f41344940544900455881d4ee41903540302b81808141703180208101e805c67161c0911701480bc0841e80c800499122421122807, 0x44f005533400421801132c042c480b577802306c07442c0a557006189c0c18a00e163c0925640812840d337403⟩,
  ⟨4, 4, 0x455c0f1f9c1c57741120981f385c0680000007bc0a34900153a01b80082b08181a01c00b057c2534e4100ad80e30901342f80542f40453f81d4ee41903400302b81808141703140208101e16140911ac140760083abc0c80055a135821138407, 0x430c054eec00386001132c042c480b577802306c07442c0a55700620980c18a00e1a140924a00813f80d312003⟩,
  ⟨4, 4, 0x455c0f1f9c1c57741120981f385c0680000007bc0a34900153a01b80082b08181a01c00b057c2534e4100ad80e30901342f80542f40453f81d4ee41903400302b81808141703140208101e16140911ac140760083abc0c80055a135821138407, 0x430c055030003b8c01132c042c480b577802306c07442c0a55700620980c18a00e1a140924a00813f80d312003⟩,
  ⟨4, 3, 0x455c0f18901c577411189c1f39b40680000007bc0a34900157201b80082b08181a01680b05d0253808100aa00e30f41344940544900455881d4ee41903540302b81808141703180208101e161c0911701408740841e80c80055b122421122807, 0x44f0055030003b8c01132c042c480b577802306c07442c0a557006189c0c18a00e163c0925640812840d337403⟩,
  ⟨4, 3, 0x455c0f18901c577411189c1f39b40680000007bc0a34900157201b80082b08181a01680b05d0253808100aa00e30f41344940544900455881d4ee41903540302b81808141703180208101e161c0911701408740841e80c80055b122421122807, 0x44f0054eec00386001132c042c480b577802306c07442c0a557006189c0c18a00e163c0925640812840d337403⟩,
  ⟨4, 3, 0x455c0f18901c577411189c1f39b40680000007bc0a34900157901b80082b08181a01680b0618253808100aa00e30f41344940544900455881d4ee41903540302b81808141703180208101e161c0911701409a40841e80c80055c122421122807, 0x44f0055030003b8c01132c042c480b577802306c07442c0a557006189c0c18a00e163c0925640812840d337403⟩,
  ⟨4, 3, 0x455c0f18901c577411189c1f39b40680000007bc0a34900157201b80082b08181a01680b0564253808100aa00e30f41344940544900455881d4ee41903540302b81808141703180208101e805c9a161c0911701480bc0841e80c800499122421122807, 0x44f00553940042e401132c042c480b577802306c07442c0a557006189c0c18a00e163c0925640812840d337403⟩,
  ⟨4, 3, 0x455c0f18901c577411189c1f39b40680000007bc0a34900157901b80082b08181a01680b0618253808100aa00e30f41344940544900455881d4ee41903540302b81808141703180208101e161c0911701409a40841e80c80055c122421122807, 0x44f0054eec00386001132c042c480b577802306c07442c0a557006189c0c18a00e163c0925640812840d337403⟩,
  ⟨4, 3, 0x455c0f18901c577411189c1f39b40680000007bc0a34900157201b80082b08181a01680b05a0253808100aa00e30f41344940544900455881d4ee41903500302b81880702408141703180208101e16180911701407c00841e80c800499122421122807, 0x44f0055030003b8c01132c042c480b577802306c07442c0a557006189c0c18a00e163c0925640812840d337403⟩,
  ⟨4, 3, 0x455c0f18901c577411189c1f39b40680000007bc0a34900157201b80082b08181a01680b05a0253808100aa00e30f41344940544900455881d4ee41903500302b81805448981347e08141703180208101e16180911701407c00841e80c8005b9122421122807, 0x44f0054eec00386001132c042c480b577802306c07442c0a557006189c0c18a00e163c0925640812840d337403⟩,
  ⟨4, 3, 0x455c0f18901c577411189c1f39b40680000007bc0a34900157201b80082b08181a01680b05e8253808100aa00e30f41344940544900455881d4ee41903540302b81808141703180208101e161c0911701408d40841e80c80051b122421122807, 0x44f0055030003b8c01132c042c480b577802306c07442c0a557006189c0c18a00e163c0925640812840d337403⟩,
  ⟨4, 3, 0x455c0f18901c577411189c1f39b40680000007bc0a34900157201b80082b08181a01680b05e8253808100aa00e30f41344940544900455881d4ee41903540302b81808141703180208101e161c0911701408d40841e80c80051b122421122807, 0x44f0054eec00386001132c042c480b577802306c07442c0a557006189c0c18a00e163c0925640812840d337403⟩,
  ⟨4, 3, 0x455c0f18901c577411189c1f39b40680000007bc0a34900157d01b80082b08181a01680b0600253808100aa00e30f41344940544900455881d4ee41903500302b81808141703180208101e16180911701409340841e80c80055d122421122807, 0x44f0055030003b8c01132c042c480b577802306c07442c0a557006189c0c18a00e163c0925640812840d337403⟩,
  ⟨4, 3, 0x455c0f18901c577411189c1f39b40680000007bc0a34900157d01b80082b08181a01680b0600253808100aa00e30f41344940544900455881d4ee41903500302b81808141703180208101e16180911701409340841e80c80055d122421122807, 0x44f0054eec00386001132c042c480b577802306c07442c0a557006189c0c18a00e163c0925640812840d337403⟩,
  ⟨4, 3, 0x455c0f18901c577411189c1f39b40680000007bc0a34900157201b80082b08181a01680b05a0253808100aa00e30f41344940544900455881d4ee41903500302b81808141703180208101e16180911701406b00841e80c800499122421122807, 0x44f0054eec00386001132c042c480b577802306c07442c0a557006189c0c18a00e163c0925640812840d337403⟩,
  ⟨3, 2, 0x14a8882ee0875604320fc43856003758a42212ec7b0fc02302f426455c0f1c6c1c189c861f982f5568111f908534bc0680000006d80a03688434900157201b0754160fb8150fb412064c4e07581a02040b3808100ac80e30f41342f80542f4044ee419011c0302981807381701940207348b2f5c28047c35116c0911981441e80c2f582012b48f129807, 0x44f0055328002f701b2f5c1e2f6c1a2f681d30cc192f50182d88172d901634f02a46602e420001132c041f90142c440b13302d556c02579415306c07442c0a4fdc4134ec06189c3a18a00e1690091d9c0813542b341c03⟩,
  ⟨4, 3, 0x455c0f18901c577411189c1f39b40680000007bc0a34900157201b80082b08181a01680b05a0253808100aa00e30f41344940544900455881d4ee41903500302b81808141703180208101e16180911701407240841e80c800499122421122807, 0x44f0054eec00386001132c042c480b577802306c07442c0a557006189c0c18a00e163c0925640812840d337403⟩,
  ⟨4, 3, 0x455c0f18901c577411189c1f39b40680000007bc0a34900157201b80082b08181a01680b05a0253808100aa00e30f41344940544900455881d4ee41903500302b81808141703180208101e16180911701407c00841e80c800499122421122807, 0x44f0055030003b8c01132c042c480b577802306c07442c0a557006189c0c18a00e163c0925640812840d337403⟩,
  ⟨4, 3, 0x455c0f18901c577411189c1f39b40680000007bc0a34900157201b80082b08181a01680b05a0253808100aa00e30f41344940544900455881d4ee41903500302b81808141703180208101e16180911701408000841e80c800499122421122807, 0x44f0054eec00386001132c042c480b577802306c07442c0a557006189c0c18a00e163c0925640812840d337403⟩,
  ⟨4, 3, 0x455c0f18901c577411189c1f39b40680000007bc0a34900157201b80082b08181a01680b05a0253808100aa00e30f41344940544900455881d4ee41903500302b81808141703180208101e16180911701408b40841e80c800499122421122807, 0x44f0054eec00386001132c042c480b577802306c07442c0a557006189c0c18a00e163c0925640812840d337403⟩,
  ⟨4, 3, 0x455c0f18901c577411189c1f39b40680000007bc0a34900157201b80082b08181a01680b05a0253808100aa00e30f41344940544900455881d4ee41903500302b81808141703180208101e16180911701409140841e80c800499122421122807, 0x44f0054eec00386001132c042c480b577802306c07442c0a557006189c0c18a00e163c0925640812840d337403⟩,
  ⟨4, 3, 0x455c0f18901c577411189c1f39b40680000007bc0a34900157201b80082b08181a01680b05a0253808100aa00e30f41344940544900455881d4ee41903500302b81808141703180208101e16180911701409740841e80c800499122421122807, 0x44f0054eec00386001132c042c480b577802306c07442c0a557006189c0c18a00e163c0925640812840d337403⟩,
  ⟨4, 3, 0x455c0f18901c577411189c1f39b40680000007bc0a34900157201b80082b08181a01680b05a0253808100aa00e30f41344940544900455881d4ee41903500302b81808141703180208101e16180911701407a80841e80c800499122421122807, 0x44f0054eec00386001132c042c480b577802306c07442c0a557006189c0c18a00e163c0925640812840d337403⟩,
  ⟨4, 3, 0x455c0f18901c577411189c1f39b40680000007bc0a34900157201b80082b08181a01680b05a0253808100aa00e30f41344940544900455881d4ee41903500302b81808141703180208101e16180911701409e40841e80c800499122421122807, 0x44f0054eec00386001132c042c480b577802306c07442c0a557006189c0c18a00e163c0925640812840d337403⟩,
  ⟨4, 3, 0x455c0f18901c577411189c1f39b40680000007bc0a34900157201b80082b08181a01680b05a0253808100aa00e30f41344940544900455881d4ee41903500302b81808141703180208101e16180911701408600841e80c800499122421122807, 0x44f0054eec00386001132c042c480b577802306c07442c0a557006189c0c18a00e163c0925640812840d337403⟩,
  ⟨3, 2, 0x147c882b18875468320f003854643754602214547b0efc2302c426455c0f25401c189c8626882f556811232c8534b00680000006d80a034c8434900157201b0748160ef4150ef01207581a01a80b3808100ad40e30f4134494054490044ee41901180302981807381701900207348b2b382804703511680911a41441e80c2b342012e88f13f407, 0x44f0054f94002b4c1b43c48b2b381e3be01a2b448a4680192b20182b1c172ab8163b2001132c04232c145478232c440b556c02546c15306c07442c0a577c06189c3a18a00e1690091ba40813540d339c03⟩,
  ⟨3, 2, 0x147c882b18875468320f0038546437546022133c7b0efc2302e026455c0f1d941c2098861d902f53a4111d8c85343806800000063c0a041884342c0153a01b06bc160ef4150ef01206381a01cc0b34e4100ae00e30901342f80542f4044ee419009803029c1806341701780206308b2b3828045c3511400911c0143abc0c2b342013b08f12c407, 0x430c054f94002b4c1b2b381e2b481a2b441d39c8192b20182b1c172ab8163b2001132c041d8c142b300b53b802546c152f3c0742fc0a53bc0620983a20a00e1d5c091a400814280d315803⟩,
  ⟨3, 2, 0x147c882b18875468320f003854643754602213dc7b0efc23030426455c0f21f81c189c8626742f577411268c8534b80680000007bc0a03988434900157201b0750160ef4150ef01208181a02240b3808100b600e30f4134494054490044ee41901140302b81808141701900208108b2b3828047835115c0912ac1441e80c2b342014dc8f134807, 0x44f0054f94002b4c1b2b381e2b481a2b441d3bdc192b20182b1c172ab8163b2001132c04268c142c480b15742d577802546c15306c07442c0a384406189c3a18a00e16900925640812842b33fc03⟩,
  ⟨3, 2, 0x147c882b18875468320f003854643754602213e47b0efc2302ec26455c0f22a01c189c8625202f55681122d08534a00680000006d80a034c8434900157201b074c160ef4150ef01207581a01f40b3808100ae40e30f4134494054490044ee419010c0302981807381701900207348b2b382804743511640911c41441e80c2b342013bc8f136c07, 0x44f0054f94002b4c1b2b381e2b481a2b441d3bdc192b20182b1c172ab8163b2001132c0422d0142c440b14342d556c02546c15306c07442c0a3ae006189c3a18a00e1690091a240813542b339c03⟩,
  ⟨3, 2, 0x147c882b18875468320f003854643754602212947b0efc2302c426455c0f1ac81c189c8619002f55681118fc8534980680000006d80a034c8434900157201b072c160ef4150ef01207581a01a80b3808100ad40e30f4134494054490044ee41900d80302981807381701900207348b2b382804643511440911a41441e80c2b342012e88f124807, 0x44f0054f94002b4c1b2b381e2b481a2b441d3a10192b20182b1c172ab8163b2001132c0418fc142c440b556c02546c15306c07442c0a577c06189c3a18a00e16900916bc0813540d339c03⟩,
  ⟨3, 2, 0x147c882b18875468320f003854643754602213f07b0efc2302f826455c0f231c1c209886253c2f57f41125508534b406800000099c0a043484342c0153a01b07b4160ef4150ef0120a141a020c0b34e4100b3c0e30901342f80542f4044ee41901100302a41809981701780209948b2b38280480351158091278143abc0c2b342014b88f137807, 0x430c054f94002b4c1b2b381e2b481a2b441d39c8192b20182b1c172ab8163b2001132c042550142c780b57fc02546c152f3c0742fc0a58000620983a20a00e1d5c091fbc0814d80d340c03⟩,
  ⟨3, 2, 0x147c882b18875468320f003854643754602214987b0efc23031026455c0f26601c189c861f442f5774111f608534a80680000007bc0a03988434900157201b0808160ef4150ef01208181a02480b3808100aa00e30f4134494054490044ee41901040302b81808141701900208108b2b3828048435114c0911701441e80c2b342012248f144807, 0x44f0054f94002b4c1b2b381e2b481a2b441d3a10192b20182b1c172ab8163b2001132c041f60142c480b577802546c15306c07442c0a557006189c3a18a00e169009257c0812840d33fc03⟩,
  ⟨3, 2, 0x147c882b18875468320f0038546437546022138c7b0efc2302e426455c0f20201c2098861d902f5888111d8c85343806800000075c0a043884342c0157b01b0868160ef4150ef0120a1c1a01e00b34e4100aec0e30901342f80542f4044ee41900980302a0180a08170178020a048b2b382804883511400911d8143abc0c2b342014088f12fc07, 0x430c054f94002b4c1b2b381e2b481a2b441d39c8192b20182b1c172ab8163b2001132c041d8c142c800b588c02546c152f3c0742fc0a58900620983a20a00e1d5c091b240814680d315803⟩,
  ⟨3, 2, 0x147c882b18875468320f003854643754602214107b0efc2302fc26455c0f241c1c189c861f442f5798111f608534a8068000000a0c0a043c8434900157201b08bc160ef4150ef01208cc1a02100b3808100b400e30f4134494054490044ee41901040302ac1808c81701900208c48b2b3828048c35116009127c1441e80c2b342014bc8f13a007, 0x44f0054f94002b4c1b2b381e2b481a2b441d3a10192b20182b1c172ab8163b2001132c041f60142c5c0b579c02546c15306c07442c0a586006189c3a18a00e16900920380814e80d33fc03⟩,
  ⟨3, 2, 0x147c882b18875468320f0038546437546022146c7b0efc23030826455c0f25ec1c189c861f442f57b8111f608534a8068000000a100a04408434900157201b091c160ef4150ef012092c1a022c0b3808100b580e30f4134494054490044ee41901040302b41809281701900209248b2b382804903511600912a41441e80c2b342014d08f142007, 0x44f0054f94002b4c1b2b381e2b481a2b441d3a10192b20182b1c172ab8163b2001132c041f60142c600b57bc02546c15306c07442c0a58b006189c3a18a00e16900923ac08158c0d341403⟩,
  ⟨3, 2, 0x147c882b18875468320f0038546437546022140c7b0efc23030026455c0f24181c189c8619002f58581118fc8534980680000009a00a04488434900157901b09ec160ef4150ef01209fc1a02180b3808100b080e30f4134494054490044ee41900d80302a81809f81701900209f48b2b3828049835114409122c1441e80c2b342014648f139c07, 0x44f0054f94002b4c1b2b381e2b481a2b441d3a10192b20182b1c172ab8163b2001132c0418fc142c7c0b585c02546c15306c07442c0a588406189c3a18a00e1690091cdc0814c80d339c03⟩,
  ⟨3, 2, 0x147c882b18875468320f003854643754602214707b0efc23030c26455c0f25f01c189c861f442f57d8111f608534a80680000008700a04448434900157d01b097c160ef4150ef012098c1a02340b3808100b5c0e30f4134494054490044ee41901040302b01809881701900209848b2b3828049435114c0912a81441e80c2b342014d48f142407, 0x44f0054f94002b4c1b2b381e2b481a2b441d3a10192b20182b1c172ab8163b2001132c041f60142c740b57dc02546c15306c07442c0a58b806189c3a18a00e16900924380815900d33fc03⟩,
  ⟨5, 3, 0x455c0f1c1c1c556811189c1f39b40680000006d80a34900157201b07581a01ac0b3808100ad40e30f4134494054490044ee41903540302981807381703180207341e161c0911a4148165ba41e80c06e02012e82112d007, 0x44f0054eec00386001132c042c440b556c02306c07442c0a577c06189c0c18a00e169009169c0813540d337403⟩,
  ⟨5, 4, 0x455c0f209c1c53a41120981f385c06800000063c0a342c0153a01b06381a01c80b34e4100ae00e30901342f80542f4044ee419034003029c1806341703140206301e16140911c0148165bb3abc0c06502013b02113b407, 0x430c054eec00386001132c042b300b53b8022f3c0742fc0a53bc0620980c20a00e1d5c091a100814280d312003⟩,
  ⟨5, 4, 0x455c0f24981c58881120981f385c06800000075c0a342c0157b01b0a1c1a01dc0b34e4100aec0e30901342f80542f4044ee41903400302a0180a08170314020a041e16140911d8148165bc3abc0c082020140821141c07, 0x430c054eec00386001132c042c800b588c022f3c0742fc0a58900620980c20a00e1d5c091b7c0814680d312003⟩,
  ⟨5, 4, 0x455c0f26941c57f41120981f385c06800000099c0a342c0153a01b0a141a02080b34e4100b3c0e30901342f80542f4044ee41903400302a41809981703140209941e1614091278148165bd3abc0c07642014b82114c007, 0x430c054eec00386001132c042c780b57fc022f3c0742fc0a58000620980c20a00e1d5c0920180814d80d312003⟩,
  ⟨5, 3, 0x455c0f25f41c585811189c1f39b40680000009a00a34900157901b09fc1a02200b3808100b080e30f4134494054490044ee41903540302a81809f81703180209f41e161c09122c148165be41e80c09a820146421147407, 0x44f0054eec00386001132c042c7c0b585c02306c07442c0a588406189c0c18a00e1690091d500814c80d337403⟩,
  ⟨5, 3, 0x455c0f26981c579811189c1f39b4068000000a0c0a34900157201b08cc1a02140b3808100b400e30f4134494054490044ee41903540302ac1808c81703180208c41e161c09127c148165bf41e80c08782014bc2114c407, 0x44f0054eec00386001132c042c5c0b579c02306c07442c0a586006189c0c18a00e16900920900814e80d337403⟩,
  ⟨5, 3, 0x455c0f272c1c57d811189c1f39b40680000008700a34900157d01b098c1a02380b3808100b5c0e30f4134494054490044ee41903500302b01809881703180209841e16180912a8148165c041e80c09382014d42114f007, 0x44f0054eec00386001132c042c740b57dc02306c07442c0a58b806189c0c18a00e16900924900815900d337403⟩,
  ⟨5, 3, 0x455c0f27281c57b811189c1f39b4068000000a100a34900157201b092c1a02300b3808100b580e30f4134494054490044ee41903540302b41809281703180209241e161c0912a4148165c141e80c08d82014d02114ec07, 0x44f0054eec00386001132c042c600b57bc02306c07442c0a58b006189c0c18a00e169009240408158c0d337403⟩,
  ⟨5, 3, 0x455c0f18901c577411189c1f39b40680000007bc0a34900157201b08181a01680b3808100aa00e30f4134494054490044ee41903500302b81808141703180208101e1618091170148165c241e80c07c420122421122807, 0x44f0054eec00386001132c042c480b577802306c07442c0a557006189c0c18a00e16900925e40812840d337403⟩,
  ⟨1, 2, 0x53b05253ac5453a822123c530aac4b455c0f26941c57f41120981f385c06800000099c0a342c0153a01b0a141a02080b34d8100b0c0e30881342f80542f4044ee41903400302a41809981703140234282812385134d45009941e161409124c1438840c142c4c14b8dc14c007, 0x3ad4054eec0003a425386001132c042c780b57fc022f3c0742fc0a58000620980c20a0281d5c091d680814d80d0bec243120030c143b⟩,
  ⟨1, 2, 0x53b05253ac5453a822123c530aac4b455c0f26941c57f41120981f385c06800000099c0a342c0153a01b0a141a02080b34d8100b0c0e30881342f80542f4044ee41903400302a41809981703140234282812385134d45009941e161409124c1438840c142c4c14b8dc14c007, 0x3ad4054eec0003a425386001132c042c780b57fc022f3c0742fc0a58000620980c20a0281d5c091dcc0814d80d0bec243120030ccc3b⟩,
  ⟨6, 3, 0x5468320f00385464375460220efc230ef8262b402f2b3c403afc068000002b183a459c01545c160ef4150ef01280082b436c0b05642544b40544b0040c5403019c022b3828343435147c3b8005c306dc0846180c2b34202ab007, 0x4f78002b4c1b2b381e2b481a2b441d2d3c192b20182b1c172ab8165470012b3c14546c15461c03⟩,
  ⟨1, 2, 0x53b05253ac5453a8221280530ac44b455c0f26941c57f41120981f385c06800000099c0a342c0153a01b0a141a02080b3834100b440e31081342f80542f4044ee41903400302a41809981703140234282812385134d45009941e16140912781438840c142c4c14b8dc14c007, 0x4284054eec00226c25386001132c042c780b57fc022f3c0742fc0a58000620980c20a0281d5c091dcc0814d80d0bec243120030ccc3b⟩,
  ⟨1, 2, 0x53b05253ac5453a8221280530ac44b455c0f26941c57f41120981f385c06800000099c0a342c0153a01b0a141a02080b3834100b440e31081342f80542f4044ee41903400302a41809981703140234282812385134d45009941e16140912781438840c142c4c14b8dc14c007, 0x4284054eec00226c25386001132c042c780b57fc022f3c0742fc0a58000620980c20a0281d5c091d680814d80d0bec243120030c143b⟩,
  ⟨1, 2, 0x57285257245457f822126c530ab84b455c0f26941c57f41120981f385c06800000099c0a342c0153a01b0a141a02080b3854100b480e31181342f80542f4044ee41903400302a41809981703140234c02812685138005009941e1614091278143ab00c14604c14b8dc14c007, 0x42c8054eec0022c025386001132c042c780b57fc022f3c0742fc0a58000620980c20a0281d5c0920080814d80d40282431200340bc3b⟩,
  ⟨1, 2, 0x57285257245457f822126c530ab84b455c0f26941c57f41120981f385c06800000099c0a342c0153a01b0a141a02080b3854100b480e31181342f80542f4044ee41903400302a41809981703140234c02812685138005009941e1614091278143ab00c14604c14b8dc14c007, 0x42c8054eec0022c025386001132c042c780b57fc022f3c0742fc0a58000620980c20a0281d5c091fa40814d80d40282431200340403b⟩,
  ⟨1, 2, 0x53b05253ac5453a822123c530aac4b455c0f26941c57f41120981f385c06800000099c0a342c0153a01b0a141a02080b3834100b440e31081342f80542f4044ee41903400302a41809981703140234282812385134d45009941e16140912781438840c142c4c14b8dc14c007, 0x4284054eec00226c25386001132c042c780b57fc022f3c0742fc0a58000620980c20a0281d5c091dcc0814d80d0bec243120030ccc3b⟩,
  ⟨1, 2, 0x53b05253ac5453a822123c530aac4b455c0f26941c57f41120981f385c06800000099c0a342c0153a01b0a141a02080b3834100b440e31081342f80542f4044ee41903400302a41809981703140234282812385134d45009941e16140912781438840c142c4c14b8dc14c007, 0x4284054eec00226c25386001132c042c780b57fc022f3c0742fc0a58000620980c20a0281d5c091d680814d80d0bec243120030c143b⟩,
  ⟨6, 4, 0x5468320f00385464375460220efc230ef8262b402f2b3c403afc068000002b183a459c01545c160ef4150ef01280082b436c0b05102544b40544b0040c5403019c022b3828343435147c3b8005c406440846180c2b34202ab007, 0x4f78002b4c1b2b381e2b481a2b441d2d3c192b20182b1c172ab8165470012b3c14546c15461c03⟩,
  ⟨6, 4, 0x5468320f00385464375460220efc230ef8262b402f2b3c403afc068000002b183a459c01545c160ef4150ef01280082b436c0b05b82544b40544b0040c5403019c022b3828343435147c3b8005c5081c0846180c2b34202ab007, 0x4f78002b4c1b2b381e2b481a2b441d2d3c192b20182b1c172ab8165470012b3c14546c15461c03⟩,
  ⟨6, 3, 0x5468320f00385464375460220efc230ef8262b402f2b3c403afc068000002b183a459c01545c160ef4150ef01280082b436c0b05a02544b40544b0040c5403019c022b38283434358030a6147c3b8004ee80b40846180c2b34202ab007, 0x4f78002b4c1b2b381e2b481a2b441d2d3c192b20182b1c172ab8165470012b3c14546c15461c03⟩,
  ⟨6, 3, 0x5468320f00385464375460220efc230ef8262b402f2b3c403afc068000002b183a459c01545c160ef4150ef01280082b436c0b05642544b40544b0040c5403807024019c022b382834343581609a147c3b8004ee06dc0846180c2b34202ab007, 0x4f78002b4c1b2b381e2b481a2b441d2d3c192b20182b1c172ab8165470012b3c14546c15461c03⟩,
  ⟨6, 3, 0x546832111c3858d43758e4221118231114262b402f2b3c403afc068000002b183a459c01545c16111015110c1280082b45400b05642544b40544b0040c5403019c022b3828343435805c9a147c3b8004ee80bc0846180c2b34202ab007, 0x5388002b4c1b2b381e2b481a2b441d384c192b20183110172ab8165830012b3c14546c154ea803⟩,
  ⟨6, 3, 0x5604320fc43856003758a4220fc0230fbc262f642f2f6040425c068000002ee03a459c0155fc160fb8150fb41280082b450c0b0564254428054424040dd80301b4022f5c28349c35805c6714a83b8004ee80bc0846180c2f58202d0007, 0x5344002f701b2f5c1e2f6c1a2f681d2f98192ee4182d04172d90165608012f60145794154dec03⟩,
  ⟨6, 4, 0x5468320f00385464375460220efc230ef8262b402f2b3c403afc068000002b183a459c01545c160ef4150ef01280082b436c0b057c2544b40544b0040c5403019c022b3828343435147c3b8005c607600846180c2b34202ab007, 0x4f78002b4c1b2b381e2b481a2b441d2d3c192b20182b1c172ab8165470012b3c14546c15461c03⟩,
  ⟨6, 3, 0x5468320f00385464375460220efc230ef8262b402f2b3c403afc068000002b183a459c01545c160ef4150ef01280082b436c0b05d02544b40544b0040c5403019c022b3828343435147c3b8005c708740846180c2b34202ab007, 0x4f78002b4c1b2b381e2b481a2b441d2d3c192b20182b1c172ab8165470012b3c14546c15461c03⟩]

/-- States 192 to 255. -/
def states0192 : List PackedRow := [
  ⟨6, 3, 0x5468320f00385464375460220efc230ef8262b402f2b3c403afc068000002b183a459c01545c160ef4150ef01280082b436c0b06182544b40544b0040c5403019c022b3828343435147c3b8005c809a40846180c2b34202ab007, 0x4f78002b4c1b2b381e2b481a2b441d2d3c192b20182b1c172ab8165470012b3c14546c15461c03⟩,
  ⟨6, 3, 0x5468320f00385464375460220efc230ef8262b402f2b3c403afc068000002b183a459c01545c160ef4150ef01280082b436c0b05a02544b40544b0040c5403807024019c022b3828343435147c3b8004ee07c00846180c2b34202ab007, 0x4f78002b4c1b2b381e2b481a2b441d2d3c192b20182b1c172ab8165470012b3c14546c15461c03⟩,
  ⟨6, 3, 0x5468320f00385464375460220efc230ef8262b402f2b3c403afc068000002b183a459c01545c160ef4150ef01280082b436c0b05e82544b40544b0040c5403019c022b3828343435147c3b8005c908d40846180c2b34202ab007, 0x4f78002b4c1b2b381e2b481a2b441d2d3c192b20182b1c172ab8165470012b3c14546c15461c03⟩,
  ⟨6, 3, 0x5468320f00385464375460220efc230ef8262b402f2b3c403afc068000002b183a459c01545c160ef4150ef01280082b436c0b06002544b40544b0040c5403019c022b3828343435147c3b8005ca09340846180c2b34202ab007, 0x4f78002b4c1b2b381e2b481a2b441d2d3c192b20182b1c172ab8165470012b3c14546c15461c03⟩,
  ⟨6, 3, 0x5468320f00385464375460220efc230ef8262b402f2b3c403afc068000002b183a459c01545c160ef4150ef01280082b436c0b05a02544b40544b0040c5403019c022b3828343435147c3b8004ee07c00846180c2b34202ab007, 0x4f78002b4c1b2b381e2b481a2b441d2d3c192b20182b1c172ab8165470012b3c14546c15461c03⟩,
  ⟨1, 2, 0x4a44904a056016c264d3c0f1b841c20a82f556811189c7639b40680000006d80a34900157201b064c4e07581a01980b3808100ac80e30f4134494054490044ee41903500302981807381745844a03180207341e16180911981441e80c12b4b512b807, 0x40c054eec0034f44604a822044c2734f02a3ac02e386001132c0453e0232c440b13302d458845556c02306c07442c0a34ec06189c0c18a00e16900918940813542b337403⟩,
  ⟨1, 2, 0x4a44904a056016c264d3c0f1b841c20a82f556811189c7639b40680000006d80a34900157201b064c4e07581a01980b3808100ac80e30f4134494054490044ee41903500302981807381745844a03180207341e16180911981441e80c12b4b512b807, 0x40c054eec0034f44604a822044c2734f02a3ac02e386001132c0455e8232c440b13302d458845556c02306c07442c0a34ec06189c0c18a00e16900919f00813542b337403⟩,
  ⟨1, 2, 0x4c44904c056018c264d3c0f1c201c22702f577411189c7639b40680000007bc0a34900157201b064c4e08181a01a00b3808100acc0e30f4134494054490044ee41903580302b81808141745844a03180208101e162009119c1441e80c12d4b512d807, 0x40c054eec0034f44604a822044c2734f02a3ac02e386001132c042c480b135c2d458845577802306c07442c0a383806189c0c18a00e16900925640812842b337403⟩,
  ⟨1, 2, 0x4c44904c056018c264d3c0f1c201c22702f577411189c7639b40680000007bc0a34900157201b064c4e08181a01a00b3808100acc0e30f4134494054490044ee41903580302b81808141746704a03180208101e162009119c1441e80c12d4b512d807, 0x40c054eec0034f44604a822044c2734f02a3ac02e386001132c042c480b135c2d4ff045577802306c07442c0a383806189c0c18a00e16900925640812842b337403⟩,
  ⟨1, 2, 0x4c44904c056018c264d3c0f1c201c22702f577411189c7639b40680000007bc0a34900157201b064c4e08181a01a00b3808100acc0e30f4134494054490044ee41903580302b81808141746b84a03180208101e162009119c1441e80c12d4b512d807, 0x40c054eec0034f44604a822044c2734f02a3ac02e386001132c042c480b135c2d4ff045577802306c07442c0a383806189c0c18a00e16900925640812842b337403⟩,
  ⟨1, 2, 0x4c44904c056018c264d3c0f1c201c22702f577411189c7639b40680000007bc0a34900157201b064c4e08181a01a00b3808100acc0e30f4134494054490044ee41903580302b81808141739804a03180208101e162009119c1441e80c12d4b512d807, 0x40c054eec0034f44604a822044c2734f02a3ac02e386001132c042c480b135c2d4d5445577802306c07442c0a383806189c0c18a00e16900925640812842b337403⟩,
  ⟨1, 2, 0x4c44904c056018c264d3c0f1c201c22702f577411189c7639b40680000007bc0a34900157201b064c4e08181a01a00b3808100acc0e30f4134494054490044ee41903580302b81808141737a44a03180208101e162009119c1441e80c12d4b512d807, 0x40c054eec0034f44604a822044c2734f02a3ac02e386001132c042c480b135c2d4ddc45577802306c07442c0a383806189c0c18a00e16900925640812842b337403⟩,
  ⟨1, 2, 0x4c44904c056018c264d3c0f1c201c22702f577411189c7639b40680000007bc0a34900157201b064c4e08181a01a00b3808100acc0e30f4134494054490044ee41903580302b81808141739884a03180208101e162009119c1441e80c12d4b512d807, 0x40c054eec0034f44604a822044c2734f02a3ac02e386001132c042c480b135c2d4ff045577802306c07442c0a383806189c0c18a00e16900925640812842b337403⟩,
  ⟨1, 2, 0x4c44904c056018c264d3c0f1c201c22702f577411189c7639b40680000007bc0a34900157201b064c4e08181a01a00b3808100acc0e30f4134494054490044ee41903580302b818081417398c4a03180208101e162009119c1441e80c12d4b512d807, 0x40c054eec0034f44604a822044c2734f02a3ac02e386001132c042c480b135c2d4ff045577802306c07442c0a383806189c0c18a00e16900925640812842b337403⟩,
  ⟨1, 2, 0x4c44904c056018c264d3c0f1c201c22702f577411189c7639b40680000007bc0a34900157201b064c4e08181a01a00b3808100acc0e30f4134494054490044ee41903580302b81808141737ac4a03180208101e162009119c1441e80c12d4b512d807, 0x40c054eec0034f44604a822044c2734f02a3ac02e386001132c042c480b135c2d4ff045577802306c07442c0a383806189c0c18a00e16900925640812842b337403⟩,
  ⟨1, 2, 0x4c44904c056018c264d3c0f1c201c22702f577411189c7639b40680000007bc0a34900157201b064c4e08181a01a00b3808100acc0e30f4134494054490044ee41903580302b81808141737b04a03180208101e162009119c1441e80c12d4b512d807, 0x40c054eec0034f44604a822044c2734f02a3ac02e386001132c042c480b135c2d4ff045577802306c07442c0a383806189c0c18a00e16900925640812842b337403⟩,
  ⟨1, 2, 0x455c0f1b841c556811189c1f39b40680000006d80a34900157201b06484e07581a01980b3808100ac80e30f4134494054490044ee4191d644503500302981807381703180207341e03842a16180911981441e80c12b42112b807, 0x45983d45942f44f0054eec0034f02a43182e386001132c044590422c440b13302d556c02306c07442c0a458c4134ec06189c0c18a00e1690091b880813542b337403⟩,
  ⟨1, 2, 0x455c0f1b841c556811189c1f39b40680000006d80a34900157201b06484e07581a01980b3808100ac80e30f4134494054490044ee4191d644503500302981807381703180207341e03842a16180911981441e80c12b42112b807, 0x45983d45942f44f0054eec0034f02a43182e386001132c044590422c440b13302d556c02306c07442c0a458c4134ec06189c0c18a00e1690091b940813542b337403⟩,
  ⟨1, 2, 0x4c44904c056018c264d3c0f1c201c22702f577411189c7639b40680000007bc0a34900157201b064c4e08181a01a00b3808100acc0e30f4134494054490044ee41903580302b81808141703180208101e162009119c1441e80c12d4b512d807, 0x40c054eec0034f44604a822044c2734f02a3ac02e386001132c042c480b135c2d4ff045577802306c07442c0a383806189c0c18a00e16900925640812842b337403⟩,
  ⟨1, 2, 0x455c0f1c1c1c556811189c1f39b40680000006d80a34900157201b07581a01ac0b3808100ad40e30f4134494054490044ee41902981807381703180207341e80615e161c0911a41441e80c12e82112d007, 0x44f0054eec00386001132c042c440b556c02306c07442c0a577c06189c0c18a00e16900916940813540d337403⟩,
  ⟨1, 2, 0x455c0f1b841c556811189c1f39b40680000006d80a34900157201b06484e07581a01980b3808100ac80e30f4134494054490044ee4191ab44503500302981807381703180207341e03842a16180911981441e80c12b42112b807, 0x45983d4d602f44f0054eec0034f02a43182e386001132c044d5c422c440b13302d556c02306c07442c0a458c4134ec06189c0c18a00e1690091c800813542b337403⟩,
  ⟨1, 2, 0x455c0f1b841c556811189c1f39b40680000006d80a34900157201b06484e07581a01980b3808100ac80e30f4134494054490044ee41919b84503500302981807381703180207341e03842a16180911981441e80c12b42112b807, 0x45983d4d602f44f0054eec0034f02a43182e386001132c044d5c422c440b13302d556c02306c07442c0a458c4134ec06189c0c18a00e1690091c800813542b337403⟩,
  ⟨1, 2, 0x455c0f1b841c556811189c1f39b40680000006d80a34900157201b06484e07581a01980b3808100ac80e30f4134494054490044ee4191c604503500302981807381703180207341e03842a16180911981441e80c12b42112b807, 0x45983d4d602f44f0054eec0034f02a43182e386001132c044d5c422c440b13302d556c02306c07442c0a458c4134ec06189c0c18a00e1690091c800813542b337403⟩,
  ⟨1, 2, 0x455c0f1b841c556811189c1f39b40680000006d80a34900157201b06484e07581a01980b3808100ac80e30f4134494054490044ee419252c4503500302981807381703180207341e03842a16180911981441e80c12b42112b807, 0x45983d4d602f44f0054eec0034f02a43182e386001132c044d5c422c440b13302d556c02306c07442c0a458c4134ec06189c0c18a00e1690091c800813542b337403⟩,
  ⟨1, 2, 0x455c0f1b841c556811189c1f39b40680000006d80a34900157201b06484e07581a01980b3808100ac80e30f4134494054490044ee41926644503500302981807381703180207341e03842a16180911981441e80c12b42112b807, 0x45983d4d602f44f0054eec0034f02a43182e386001132c044d5c422c440b13302d556c02306c07442c0a458c4134ec06189c0c18a00e1690091c800813542b337403⟩,
  ⟨1, 2, 0x455c0f265c1c57b811189c1f39b4068000000a100a34900157201b064c4e092c1a01f00b3808100b040e30f4134494054490044ee419404c4503600302b41809281703180209241e03b02a16280911f01441e80c144021144407, 0x45983d44f0054eec0054bc7334f02a43182e386001132c042c600b14cc2d57bc02306c07442c0a458c414ec806189c0c18a00e169009237808158c2b337403⟩,
  ⟨1, 5, 0x455c0f1c1c1c556811189c1f39b40680000006d80a34900157201b07581a01ac0b3808100ad40e30f4134494054490044ee41902981807381703180207341e806102161c0911a41441e80c12e82112d007, 0x44f0054eec00386001132c042c440b556c02306c07442c0a577c06189c0c18a00e16900916940813540d337403⟩,
  ⟨5, 4, 0x80000054401d00500980b95f, 0x3ac20⟩,
  ⟨5, 4, 0x80000054441d00500980b95f, 0x3ac20⟩,
  ⟨5, 4, 0x80000000500980b9cb, 0x3ac20⟩,
  ⟨5, 4, 0xb105780000080800880a4b6811848, 0x0⟩,
  ⟨1, 2, 0x455c0f1c201c577411189c1f39b40680000007bc0a34900157201b064c4e08181a01a00b3808100acc0e30f4134494054490044ee419351c4503580302b81808141703180208101e03b02a162009119c1441e80c12d42112d807, 0x4d643d44f0054eec0034f02a443c2e386001132c042c480b135c2d577802306c07442c0a4d5841383806189c0c18a00e16900925640812842b337403⟩,
  ⟨1, 2, 0x455c0f24b41c556811189c1f39b40680000006d80a34900157201b07581a01ec0b3808100afc0e30f4134494054490044ee419035c030298180738170b684603180235282811ec5135245007341e16240911e81441e80c14391c143c07, 0x44f0054eec00386001132c045450232c440b556c02306c07442c0a45f006189c0c18a00e1690091b980814780d04ac7b337403⟩,
  ⟨1, 2, 0x455c0f1b841c556811189c1f39b40680000006d80a34900157201b06484e07581a01980b3808100ac80e30f4134494054490044ee41903500302981807381703180207341e83d49a16180911981441e80c12b42112b807, 0x44f0054eec0034f02a46042e386001132c044600422c440b13302d556c02306c07442c0a4f704134ec06189c0c18a00e1690091b9c0813542b337403⟩,
  ⟨1, 2, 0x455c0f265c1c57b811189c1f39b4068000000a100a34900157201b064c4e092c1a02000b3808100b200e30f4134494054490044ee419404c4503600302b41809281703180209241e03b02a16280912501441e80c149021149407, 0x45983d44f0054eec0034f02a43182e386001132c042c600b14cc2d57bc02306c07442c0a458c414ec806189c0c18a00e169009214008158c2b337403⟩,
  ⟨1, 2, 0x455c0f1b841c556811189c1f39b40680000006d80a34900157201b06484e07581a01980b3808100ac80e30f4134494054490044ee41986b04503500302981807381703180207341e83d42a16180911981441e80c12b42112b807, 0x44f0054eec0034f02a46042e386001132c044600422c440b13302d556c02306c07442c0a4f704134ec06189c0c18a00e1690091b9c0813542b337403⟩,
  ⟨1, 2, 0x455c0f1c201c577411189c1f39b40680000007bc0a34900157201b064c4e08181a01a00b3808100acc0e30f4134494054490044ee419404c4503580302b81808141703180208101e03b02a162009119c1441e80c12d42112d807, 0x45983d44f0054eec0034f02a43182e386001132c042c480b135c2d577802306c07442c0a458c41383806189c0c18a00e16900925640812842b337403⟩,
  ⟨1, 2, 0x455c0f1b841c556811189c1f39b40680000006d80a34900157201b06484e07581a01980b3808100ac80e30f4134494054490044ee41986b44503500302981807381703180207341e83d42a16180911981441e80c12b42112b807, 0x44f0054eec0034f02a46042e386001132c044600422c440b13302d556c02306c07442c0a4f704134ec06189c0c18a00e1690091b9c0813542b337403⟩,
  ⟨1, 2, 0x455c0f18901c577411189c1f39b40680000007bc0a34900157201b08181a01680b3808100aa00e30f4134494054490044ee41902b81808141703180208101e8061cc16180911701441e80c122421122807, 0x44f0054eec00386001132c042c480b577802306c07442c0a557006189c0c18a00e16900925dc0812840d337403⟩,
  ⟨1, 2, 0x455c0f24b41c556811189c1f39b40680000006d80a34900157201b07581a01ec0b3808100afc0e30f4134494054490044ee419035c030298180738170b684603180235282811ec5135245007341e16240911e81441e80c14391c143c07, 0x44f0054eec00386001132c0458cc232c440b556c02306c07442c0a45f006189c0c18a00e1690091d440814780d04c87b337403⟩,
  ⟨1, 2, 0x455c0f24b41c556811189c1f39b40680000006d80a34900157201b07581a01ec0b3808100afc0e30f4134494054490044ee419035c030298180738170b684603180235282811ec5135245007341e16240911e81441e80c14391c143c07, 0x44f0054eec00386001132c0458e0232c440b556c02306c07442c0a45f006189c0c18a00e1690091d580814780d04d07b337403⟩,
  ⟨5, 4, 0x80000081edcd81e848, 0x0⟩,
  ⟨5, 4, 0x80000082acc2, 0x0⟩,
  ⟨5, 4, 0x80000082b0c2, 0x0⟩,
  ⟨1, 2, 0x455c0f1c201c577411189c1f39b40680000007bc0a34900157201b064c4e08181a01a00b3808100acc0e30f4134494054490044ee41903580302b81808141703180208101e86b89a162009119c1441e80c12d42112d807, 0x44f0054eec0034f02a46042e386001132c042c480b135c2d577802306c07442c0a4f7041383806189c0c18a00e16900925640812842b337403⟩,
  ⟨5, 4, 0xcac5780000080fcb682b448, 0x0⟩,
  ⟨5, 4, 0x8000008098c2, 0x0⟩,
  ⟨5, 4, 0x8000008098c2, 0x0⟩,
  ⟨5, 4, 0xd0c578000008078b680c048, 0x0⟩,
  ⟨5, 4, 0xd10578000008078b680c048, 0x0⟩,
  ⟨5, 4, 0xd205780000081f0b682b848, 0x0⟩,
  ⟨5, 4, 0xd40578000008078b680c048, 0x0⟩,
  ⟨5, 4, 0xd5c57800000809cb680a848, 0x0⟩,
  ⟨5, 4, 0xd605780000082bcb681f448, 0x0⟩,
  ⟨5, 4, 0xd645780000081f8b682c048, 0x0⟩,
  ⟨5, 4, 0xd7c57800000809cb680a848, 0x0⟩,
  ⟨5, 4, 0xd8057800000809cb680a848, 0x0⟩,
  ⟨5, 4, 0xd985780000082c4b681fc48, 0x0⟩,
  ⟨5, 4, 0xdac578000008244b681ac48, 0x0⟩,
  ⟨5, 4, 0x3f457800000811960, 0x0⟩,
  ⟨5, 4, 0x8000008200c2, 0x0⟩,
  ⟨5, 4, 0x80000080e8c2, 0x0⟩,
  ⟨5, 4, 0x4045780000080e960, 0x0⟩,
  ⟨5, 4, 0x8000008204c2, 0x0⟩]

/-- States 256 to 319. -/
def states0256 : List PackedRow := [
  ⟨5, 4, 0x80000082c8c2, 0x0⟩,
  ⟨5, 4, 0x8000008208c2, 0x0⟩,
  ⟨5, 4, 0x80000082ccc2, 0x0⟩,
  ⟨1, 2, 0x4c44904c0560174264d3c0f1c201c20e82f577411189c7639b40680000007bc0a34900157201b064c4e08181a01a00b3808100acc0e30a4134494054490044ee41903580302b81808141703180208101e162009119c1441e80c12d4b512d807, 0x12c0054eec0004b42204582734f02a3af82e386001132c042c480b135c2d577802306c07442c0a383806189c0c18a00e16900925640812842b337403⟩,
  ⟨1, 2, 0x455c0f1c1c1c556811189c1f39b40680000006d80a34900157201b06b84e07581a01ac0b3808100ad40e30f4134494054490044ee4190354030298180738171ba84a03180207341e04142a161c0911a41441e80c12e82112d007, 0x462c2f44f0054eec00386001132c044628422c440b556c02306c07442c0a577c06189c0c18a00e1690091bac0813540d337403⟩,
  ⟨1, 2, 0x455c0f1c1c1c556811189c1f39b40680000006d80a34900157201b06b84e07581a01ac0b3808100ad40e30f4134494054490044ee41903540302981807381703180207341e86bd32161c0911a41441e80c12e82112d007, 0x44f0054eec00386001132c044600422c440b556c02306c07442c0a577c06189c0c18a00e1690091b9c0813540d337403⟩,
  ⟨1, 2, 0x455c0f209c1c53a41120981f385c06800000063c0a342c0153a01b06381a01c80b34e4100ae00e30901342f80542f4044ee419029c1806341703140206301e80609c16140911c0143abc0c13b02113b407, 0x430c054eec00386001132c042b300b53b8022f3c0742fc0a53bc0620980c20a00e1d5c091a000814280d312003⟩,
  ⟨1, 2, 0x455c0f1c1c1c556811189c1f39b40680000006d80a34900157201b06b84e07581a01ac0b3808100ad40e30f4134494054490044ee41903540302981807381716584a03180207341e04142a161c0911a41441e80c12e82112d007, 0x4d9c2f44f0054eec00386001132c044d98422c440b556c02306c07442c0a577c06189c0c18a00e1690091c840813540d337403⟩,
  ⟨1, 2, 0x455c0f1c1c1c556811189c1f39b40680000006d80a34900157201b06b84e07581a01ac0b3808100ad40e30f4134494054490044ee4190354030298180738170e7c4a03180207341e04142a161c0911a41441e80c12e82112d007, 0x4df42f44f0054eec00386001132c044df0422c440b556c02306c07442c0a577c06189c0c18a00e1690091c980813540d337403⟩,
  ⟨1, 2, 0x455c0f1c1c1c556811189c1f39b40680000006d80a34900157201b06b84e07581a01ac0b3808100ad40e30f4134494054490044ee4190354030298180738172dc84a03180207341e04142a161c0911a41441e80c12e82112d007, 0x4e282f44f0054eec00386001132c044e24422c440b556c02306c07442c0a577c06189c0c18a00e1690091ca00813540d337403⟩,
  ⟨1, 2, 0x455c0f1c1c1c556811189c1f39b40680000006d80a34900157201b06b84e07581a01ac0b3808100ad40e30f4134494054490044ee41903540302981807381726704a03180207341e04142a161c0911a41441e80c12e82112d007, 0x4e4c2f44f0054eec00386001132c044e48422c440b556c02306c07442c0a577c06189c0c18a00e1690091ca40813540d337403⟩,
  ⟨1, 2, 0x455c0f1c1c1c556811189c1f39b40680000006d80a34900157201b06b84e07581a01ac0b3808100ad40e30f4134494054490044ee419035403029818073817302c4a03180207341e04142a161c0911a41441e80c12e82112d007, 0x4e782f44f0054eec00386001132c044e74422c440b556c02306c07442c0a577c06189c0c18a00e1690091ca80813540d337403⟩,
  ⟨1, 2, 0x455c0f1c1c1c556811189c1f39b40680000006d80a34900157201b06b84e07581a01ac0b3808100ad40e30f4134494054490044ee41903540302981807381734844a03180207341e04142a161c0911a41441e80c12e82112d007, 0x4e882f44f0054eec00386001132c044e84422c440b556c02306c07442c0a577c06189c0c18a00e1690091cac0813540d337403⟩,
  ⟨1, 2, 0x455c0f26941c57f41120981f385c06800000099c0a342c0153a01b0a141a02080b34e4100b3c0e30901342f80542f4044ee41902a41809981703140209941e80609c1614091278143abc0c14b82114c007, 0x430c054eec00386001132c042c780b57fc022f3c0742fc0a58000620980c20a00e1d5c0920100814d80d312003⟩,
  ⟨1, 2, 0x455c0f24981c58881120981f385c06800000075c0a342c0157b01b0a1c1a01dc0b34e4100aec0e30901342f80542f4044ee41902a0180a08170314020a041e80609c16140911d8143abc0c140821141c07, 0x430c054eec00386001132c042c800b588c022f3c0742fc0a58900620980c20a00e1d5c091b740814680d312003⟩,
  ⟨1, 2, 0x455c0f26981c579811189c1f39b4068000000a0c0a34900157201b08cc1a02140b3808100b400e30f4134494054490044ee41902ac1808c81703180208c41e80609c161c09127c1441e80c14bc2114c407, 0x44f0054eec00386001132c042c5c0b579c02306c07442c0a586006189c0c18a00e16900920880814e80d337403⟩,
  ⟨1, 2, 0x455c0f27281c57b811189c1f39b4068000000a100a34900157201b092c1a02300b3808100b580e30f4134494054490044ee41902b41809281703180209241e80609c161c0912a41441e80c14d02114ec07, 0x44f0054eec00386001132c042c600b57bc02306c07442c0a58b006189c0c18a00e16900923fc08158c0d337403⟩,
  ⟨1, 2, 0x455c0f272c1c57d811189c1f39b40680000008700a34900157d01b098c1a02380b3808100b5c0e30f4134494054490044ee41902b01809881703180209841e80609c16180912a81441e80c14d42114f007, 0x44f0054eec00386001132c042c740b57dc02306c07442c0a58b806189c0c18a00e16900924880815900d337403⟩,
  ⟨1, 2, 0x455c0f25f41c585811189c1f39b40680000009a00a34900157901b09fc1a02200b3808100b080e30f4134494054490044ee41902a81809f81703180209f41e80609c161c09122c1441e80c146421147407, 0x44f0054eec00386001132c042c7c0b585c02306c07442c0a588406189c0c18a00e1690091d480814c80d337403⟩,
  ⟨1, 2, 0x4c449017026455c0f1c201c20e42f577411189c7639b40680000007bc0a34900157201b064c4e08181a01a00b3808100acc0e30f4134494054490044ee41903580302b81808141703180208101e162009119c1441e80c12d56112d807, 0x44f0054eec0004b02234f02a3af42e386001132c042c480b135c2d577802306c07442c0a383806189c0c18a00e16900925640812842b337403⟩,
  ⟨1, 2, 0x455c0f1c1c1c556811189c1f39b40680000006d80a34900157201b07b04e07581a01ac0b3808100ad40e30f4134494054490044ee41903540302981807381703180207341e3b2434161c0911a41441e80c12e82112d007, 0x44f0054eec00386001132c0454888c2c440b556c02306c07442c0a577c06189c0c18a00e1690091bb80813540d337403⟩,
  ⟨1, 2, 0x455c0f1b841c556811189c1f39b40680000006d80a34900157201b064c4e07581a01980b3808100ac80e30f4134494054490044ee41903500302981807381703180207341e16180911981441e80c12b42112b807, 0x44f0054eec0034f02a46602e386001132c042c440b13302d556c02306c07442c0a4fdc4134ec06189c0c18a00e1690091d9c0813542b337403⟩,
  ⟨1, 2, 0x4c449018026455c0f1c201c21582f577411189c7639b40680000007bc0a34900157201b064c4e08181a01a00b3808100acc0e30f4134494054490044ee41903580302b81808141703180208101e162009119c1441e80c12d56112d807, 0x44f0054eec0004bc2234f02a3b502e386001132c042c480b135c2d577802306c07442c0a383806189c0c18a00e16900925640812842b337403⟩,
  ⟨1, 2, 0x455c0f209c1c1dbc2f53a411209876385c06800000063c0a342c0153a01b06381a01c80b34e4100ae00e30901342f80542f4044ee419034003029c1806341703140206301e16140911c0143abc0c13b021128807, 0x430c054eec002b504a2ac4492a44482a4047386001132c042b300b53b8022f3c0742fc0a53bc0620980c20a00e1d5c091a000814280d31a003⟩,
  ⟨1, 2, 0x455c0f1c201c577411189c1f39b40680000007bc0a34900157201b064c4e08181a01a00b3808100acc0e30f4134494054490044ee41903580302b81808141703180208101e162009119c1441e80c12d42112d807, 0x44f0054eec0034f02a46602e386001132c042c480b135c2d577802306c07442c0a4fdc41383806189c0c18a00e16900925640812842b337403⟩,
  ⟨1, 2, 0x455c0f1c1c1c171c2f556811189c7639b40680000006d80a34900157201b07581a01ac0b3808100ad40e30f4134494054490044ee41903540302981807381703180207341e161c0911a41441e80c12e821120c07, 0x44f0054eec002b504a2ac4492a44482a4047386001132c042c440b556c02306c07442c0a577c06189c0c18a00e16900916940813540d33b403⟩,
  ⟨1, 2, 0x455c0f1c1c1c556811189c1f39b40680000006d80a34900157201b07b04e07581a01ac0b3808100ad40e30f4134494054490044ee41903540302981807381703180207341e406434161c0911a41441e80c12e82112d007, 0x44f0054eec00386001132c0455b88c2c440b556c02306c07442c0a577c06189c0c18a00e1690091c8c0813540d337403⟩,
  ⟨1, 2, 0x455c0f18901c22e42f577411189c7639b40680000007bc0a34900157201b08181a01680b3808100aa00e30f4134494054490044ee41903500302b81808141703180208101e16180911701441e80c12242113ec07, 0x44f0054eec002b504a2ac4492a44482a4047386001132c042c480b577802306c07442c0a557006189c0c18a00e16900925dc0812840d33e403⟩,
  ⟨1, 2, 0x455c0f1c1c1c22e42f556811189c7639b40680000006d80a34900157201b07581a01ac0b3808100ad40e30f4134494054490044ee41903540302981807381703180207341e161c0911a41441e80c12e821129c07, 0x44f0054eec002b504a2ac4492a44482a4047386001132c042c440b556c02306c07442c0a577c06189c0c18a00e16900916940813540d33b403⟩,
  ⟨1, 2, 0x455c0f1c1c1c25442f556811189c7639b40680000006d80a34900157201b07581a01ac0b3808100ad40e30f4134494054490044ee41903540302981807381703180207341e161c0911a41441e80c12e82112f007, 0x44f0054eec002b504a2ac4492a44482a4047386001132c042c440b556c02306c07442c0a577c06189c0c18a00e16900916940813540d33b403⟩,
  ⟨1, 2, 0x455c0f18901c25442f577411189c7639b40680000007bc0a34900157201b08181a01680b3808100aa00e30f4134494054490044ee41903500302b81808141703180208101e16180911701441e80c122421139007, 0x44f0054eec002b504a2ac4492a44482a4047386001132c042c480b577802306c07442c0a557006189c0c18a00e16900925dc0812840d33e403⟩,
  ⟨1, 2, 0x455c0f1c1c1c1f642f556811189c7639b40680000006d80a34900157201b07581a01ac0b3808100ad40e30f4134494054490044ee41903540302981807381703180207341e161c0911a41441e80c12e821125c07, 0x44f0054eec002f7c4a2d98492b04482b0047386001132c042c440b556c02306c07442c0a577c06189c0c18a00e16900916940813540d341803⟩,
  ⟨1, 2, 0x455c0f26941c1dbc2f57f411209876385c06800000099c0a342c0153a01b0a141a02080b34e4100b3c0e30901342f80542f4044ee41903400302a41809981703140209941e1614091278143abc0c14b821130007, 0x430c054eec002b504a2ac4492a44482a4047386001132c042c780b57fc022f3c0742fc0a58000620980c20a00e1d5c0920100814d80d340803⟩,
  ⟨1, 2, 0x455c0f18901c171c2f577411189c7639b40680000007bc0a34900157201b08181a01680b3808100aa00e30f4134494054490044ee41903500302b81808141703180208101e16180911701441e80c122421140407, 0x44f0054eec002b504a2ac4492a44482a4047386001132c042c480b577802306c07442c0a557006189c0c18a00e16900925dc0812840d33e403⟩,
  ⟨1, 2, 0x455c0f24981c1dbc2f588811209876385c06800000075c0a342c0157b01b0a1c1a01dc0b34e4100aec0e30901342f80542f4044ee41903400302a0180a08170314020a041e16140911d8143abc0c14082112a007, 0x430c054eec002b504a2ac4492a44482a4047386001132c042c800b588c022f3c0742fc0a58900620980c20a00e1d5c091b740814680d31a003⟩,
  ⟨1, 2, 0x455c0f26981c171c2f579811189c7639b4068000000a0c0a34900157201b08cc1a02140b3808100b400e30f4134494054490044ee41903540302ac1808c81703180208c41e161c09127c1441e80c14bc21130807, 0x44f0054eec002b504a2ac4492a44482a4047386001132c042c5c0b579c02306c07442c0a586006189c0c18a00e16900920880814e80d33e403⟩,
  ⟨1, 2, 0x455c0f27281c171c2f57b811189c7639b4068000000a100a34900157201b092c1a02300b3808100b580e30f4134494054490044ee41903540302b41809281703180209241e161c0912a41441e80c14d021139407, 0x44f0054eec002b504a2ac4492a44482a4047386001132c042c600b57bc02306c07442c0a58b006189c0c18a00e16900923fc08158c0d341003⟩,
  ⟨1, 2, 0x455c0f272c1c171c2f57d811189c7639b40680000008700a34900157d01b098c1a02380b3808100b5c0e30f4134494054490044ee41903500302b01809881703180209841e16180912a81441e80c14d421139807, 0x44f0054eec002b504a2ac4492a44482a4047386001132c042c740b57dc02306c07442c0a58b806189c0c18a00e16900924880815900d33e403⟩,
  ⟨1, 2, 0x455c0f25f41c171c2f585811189c7639b40680000009a00a34900157901b09fc1a02200b3808100b080e30f4134494054490044ee41903540302a81809f81703180209f41e161c09122c1441e80c146421131c07, 0x44f0054eec002b504a2ac4492a44482a4047386001132c042c7c0b585c02306c07442c0a588406189c0c18a00e1690091d480814c80d33b403⟩,
  ⟨1, 5, 0x455c0f209c1c53a41120981f385c06800000063c0a342c0153a01b06381a01c80b34e4100ae00e30901342f80542f4044ee419034003029c180634170c046803140206301e16140911c0143abc0c13b02113b407, 0x430c054eec00386001132c044f10232b300b53b8022f3c0742fc0a53bc0620980c20a00e1d5c091a080814280d312003⟩,
  ⟨4, 3, 0x80302380000080082b056425805ca680bc088004ba80911d, 0x0⟩,
  ⟨4, 3, 0x80302380000080082b056425805ca680bc088004ba80851d, 0x0⟩,
  ⟨1, 2, 0x17026455c0f1c201c20e42f577411189c7639b40680000007bc0a34900157201b064c4e08181a01a00b3808100acc0e30f4134494054490044ee41903580302b81808141703180208101e162009119c1441e80c12d51e12d807, 0x44f0054eec0034f02a3af42e386001132c042c480b135c2d577802306c07442c0a383806189c0c18a00e16900925640812842b337403⟩,
  ⟨1, 2, 0x455c0f1c1c1c556811189c1f39b40680000006d80a34900157201b07581a01ac0b3808100ad40e30f4134494054490044ee4190354030298180738170b684603180207341e161c0911a41441e80c12e82112d007, 0x44f0054eec00386001132c0454b8232c440b556c02306c07442c0a577c06189c0c18a00e1690091bc00813540d04dc68337403⟩,
  ⟨1, 2, 0x17c26455c0f1c201c21502f577411189c7639b40680000007bc0a34900157201b064c4e08181a01a00b3808100acc0e30f4134494054490044ee41903580302b81808141703180208101e162009119c1441e80c12d51e12d807, 0x44f0054eec0034f02a3b482e386001132c042c480b135c2d577802306c07442c0a383806189c0c18a00e16900925640812842b337403⟩,
  ⟨1, 2, 0x18426455c0f1c201c215c2f577411189c7639b40680000007bc0a34900157201b064c4e08181a01a00b3808100acc0e30f4134494054490044ee41903580302b81808141703180208101e162009119c1441e80c12d51e12d807, 0x44f0054eec0034f02a3b542e386001132c042c480b135c2d577802306c07442c0a383806189c0c18a00e16900925640812842b337403⟩,
  ⟨1, 2, 0x455c0f1c1c1c556811189c1f39b40680000006d80a34900157201b07581a01ac0b3808100ad40e30f4134494054490044ee4190354030298180738170b684603180207341e161c0911a41441e80c12e82112d007, 0x44f0054eec00386001132c0454fc232c440b556c02306c07442c0a577c06189c0c18a00e1690091bf00813540d04e468337403⟩,
  ⟨1, 2, 0x18826455c0f1c201c21d82f577411189c7639b40680000007bc0a34900157201b064c4e08181a01a00b3808100acc0e30f4134494054490044ee41903580302b81808141703180208101e162009119c1441e80c12d51e12d807, 0x44f0054eec0034f02a3bbc2e386001132c042c480b135c2d577802306c07442c0a383806189c0c18a00e16900925640812842b337403⟩,
  ⟨4, 3, 0x80000080082b05a0258030c080b4088004ba80911d, 0x0⟩,
  ⟨4, 3, 0x80000080082b05a0258030c080b4088004ba80851d, 0x0⟩,
  ⟨1, 2, 0x455c0f1c1c1c556811189c1f39b40680000006d80a34900157201b07581a01ac0b3808100ad40e30f4134494054490044ee4190354030298180738170b684603180207341e161c0911a41441e80c12e82112d007, 0x44f0054eec00386001132c045834232c440b556c02306c07442c0a577c06189c0c18a00e1690091cc00813540d04ec68337403⟩,
  ⟨1, 2, 0x455c0f1c1c1c556811189c1f39b40680000006d80a34900157201b07581a01ac0b3808100ad40e30f4134494054490044ee4190354030298180738170b684603180207341e161c0911a41441e80c12e82112d007, 0x44f0054eec00386001132c045848232c440b556c02306c07442c0a577c06189c0c18a00e1690091cc40813540d04f468337403⟩,
  ⟨1, 2, 0x455c0f1c1c1c556811189c1f39b40680000006d80a34900157201b07581a01ac0b3808100ad40e30f4134494054490044ee4190354030298180738170b684603180207341e161c0911a41441e80c12e82112d007, 0x44f0054eec00386001132c0458a8232c440b556c02306c07442c0a577c06189c0c18a00e1690091d3c0813540d04fc68337403⟩,
  ⟨1, 2, 0x455c0f1c1c1c556811189c1f39b40680000006d80a34900157201b07581a01ac0b3808100ad40e30f4134494054490044ee4190354030298180738170b684603180207341e161c0911a41441e80c12e82112d007, 0x44f0054eec00386001132c0458ac232c440b556c02306c07442c0a577c06189c0c18a00e1690091d400813540d050468337403⟩,
  ⟨1, 2, 0x455c0f27241c577411189c1f39b40680000007bc0a34900157201b08181a02280b3808100b640e30f4134494054490044ee419035c0302b81808141703180238c42812c85138c05008101e16240912b01441e80c14e11c14e407, 0x44f0054eec00386001132c042c480b577802306c07442c0a4eb806189c0c18a00e16900925640815780d337403⟩,
  ⟨1, 2, 0x455c0f1c1c1c556811189c1f39b40680000006d80a34900157201b07581a01ac0b3808100ad40e30f4134494054490044ee41903540302981807381700a04a03180207341e161c0911a41441e80c12e82112d007, 0x44f0054eec00386001132c0454f8232c440b556c02306c07442c0a577c06189c0c18a00e1690091bec0813540d337403⟩,
  ⟨1, 2, 0x455c0f1c1c1c556811189c1f39b40680000006d80a34900157201b07581a01ac0b3808100ad40e30f4134494054490044ee41903540302981807381700a84a03180207341e161c0911a41441e80c12e82112d007, 0x44f0054eec00386001132c045518232c440b556c02306c07442c0a577c06189c0c18a00e1690091c040813540d337403⟩,
  ⟨1, 2, 0x455c0f1c1c1c556811189c1f39b40680000006d80a34900157201b07581a01ac0b3808100ad40e30f4134494054490044ee41903540302981807381700ac4a03180207341e161c0911a41441e80c12e82112d007, 0x44f0054eec00386001132c04551c232c440b556c02306c07442c0a577c06189c0c18a00e1690091c080813540d337403⟩,
  ⟨1, 2, 0x455c0f1c1c1c556811189c1f39b40680000006d80a34900157201b07581a01ac0b3808100ad40e30f4134494054490044ee41903540302981807381700b84a03180207341e161c0911a41441e80c12e82112d007, 0x44f0054eec00386001132c04553c232c440b556c02306c07442c0a577c06189c0c18a00e1690091c180813540d337403⟩,
  ⟨1, 2, 0x455c0f1c1c1c556811189c1f39b40680000006d80a34900157201b07581a01ac0b3808100ad40e30f4134494054490044ee41903540302981807381700e04a03180207341e161c0911a41441e80c12e82112d007, 0x44f0054eec00386001132c045758232c440b556c02306c07442c0a577c06189c0c18a00e1690091cb00813540d337403⟩,
  ⟨1, 2, 0x455c0f1c1c1c556811189c1f39b40680000006d80a34900157201b07581a01ac0b3808100ad40e30f4134494054490044ee41903540302981807381700e84a03180207341e161c0911a41441e80c12e82112d007, 0x44f0054eec00386001132c045764232c440b556c02306c07442c0a577c06189c0c18a00e1690091cb40813540d337403⟩,
  ⟨1, 2, 0x455c0f1c1c1c556811189c1f39b40680000006d80a34900157201b07581a01ac0b3808100ad40e30f4134494054490044ee41903540302981807381700ec4a03180207341e161c0911a41441e80c12e82112d007, 0x44f0054eec00386001132c045768232c440b556c02306c07442c0a577c06189c0c18a00e1690091cb80813540d337403⟩,
  ⟨1, 2, 0x455c0f1c1c1c556811189c1f39b40680000006d80a34900157201b07581a01ac0b3808100ad40e30f4134494054490044ee41903540302981807381700f84a03180207341e161c0911a41441e80c12e82112d007, 0x44f0054eec00386001132c045770232c440b556c02306c07442c0a577c06189c0c18a00e1690091cbc0813540d337403⟩,
  ⟨1, 2, 0x455c0f1c1c1c556811189c1f39b40680000006d80a34900157201b07581a01ac0b3808100ad40e30f4134494054490044ee41903540302981807381701384a03180207341e161c0911a41441e80c12e82112d007, 0x44f0054eec00386001132c045874232c440b556c02306c07442c0a577c06189c0c18a00e1690091d2c0813540d337403⟩]

/-- States 320 to 383. -/
def states0320 : List PackedRow := [
  ⟨1, 2, 0x455c0f1c1c1c556811189c1f39b40680000006d80a34900157201b07581a01ac0b3808100ad40e30f4134494054490044ee41903540302981807381701404a03180207341e161c0911a41441e80c12e82112d007, 0x44f0054eec00386001132c045878232c440b556c02306c07442c0a577c06189c0c18a00e1690091d300813540d337403⟩,
  ⟨1, 2, 0x455c0f1c1c1c556811189c1f39b40680000006d80a34900157201b07581a01ac0b3808100ad40e30f4134494054490044ee41903540302981807381701444a03180207341e161c0911a41441e80c12e82112d007, 0x44f0054eec00386001132c04587c232c440b556c02306c07442c0a577c06189c0c18a00e1690091d340813540d337403⟩,
  ⟨1, 2, 0x455c0f1c1c1c556811189c1f39b40680000006d80a34900157201b07581a01ac0b3808100ad40e30f4134494054490044ee41903540302981807381701504a03180207341e161c0911a41441e80c12e82112d007, 0x44f0054eec00386001132c045880232c440b556c02306c07442c0a577c06189c0c18a00e1690091d380813540d337403⟩,
  ⟨1, 2, 0x455c0f209c1c53a41120981f385c06800000063c0a342c0153a01b06381a01c80b34e4100ae00e30901342f80542f4044ee419034003029c1806341703140206301e16140911c0143abc0c13b02113b407, 0x430c054eec00386001132c044f14232b300b53b8022f3c0742fc0a53bc0620980c20a00e1d5c091a0c0814280d312003⟩,
  ⟨1, 2, 0x455c0f209c1c53a41120981f385c06800000063c0a342c0153a01b06381a01c80b34e4100ae00e30901342f80542f4044ee419034003029c1806341703140206301e00180911c0143abc0c13b02113b407, 0x430c054eec00386001132c042b300b53b8022f3c0742fc0a53bc0620980c20a00e1d5c091a1c0814280d20cc20312003⟩,
  ⟨1, 2, 0x455c0f1c1c1c556811189c1f39b40680000006d80a34900157201b07581a01ac0b3808100ad40e30f4134494054490044ee41903540302981807381703180207341e161c0911a41441e80c12e82112d007, 0x44f0054eec00386001132c045578232c440b556c02306c07442c0a577c06189c0c18a00e16900919e80813540d337403⟩,
  ⟨1, 2, 0x455c0f25f41c585811189c1f39b40680000009a00a34900157901b09fc1a02200b3808100b080e30f4134494054490044ee41903540302a81809f81703180209f41e161c09122c1441e80c146421147407, 0x44f0054eec0043688d386001132c042c7c0b585c02306c07442c0a588406189c0c18a00e1690091ba00814c80d337403⟩,
  ⟨1, 2, 0x455c0f1c1c1c556811189c1f39b40680000006d80a34900157201b07581a01ac0b3808100ad40e30f4134494054490044ee41903540302981807381703180207341e161c0911a41441e80c12e82112d007, 0x44f0054eec00386001132c045478232c440b556c02306c07442c0a577c06189c0c18a00e1690091ba40813540d337403⟩,
  ⟨1, 2, 0x455c0f209c1c53a41120981f385c06800000063c0a342c0153a01b06381a01c80b34e4100ae00e30901342f80542f4044ee419034003029c1806341703140206301e00180911c0143abc0c13b02113b407, 0x430c054eec00386001132c042b300b53b8022f3c0742fc0a53bc0620980c20a00e1d5c091a3c0814280d211420312003⟩,
  ⟨1, 2, 0x455c0f1c1c1c556811189c1f39b40680000006d80a34900157201b07581a01ac0b3808100ad40e30f4134494054490044ee41903540302981807381703180207341e161c0911a41441e80c12e82112d007, 0x44f0054eec00386001132c045484232c440b556c02306c07442c0a577c06189c0c18a00e1690091bb40813540d337403⟩,
  ⟨1, 2, 0x455c0f209c1c53a41120981f385c06800000063c0a342c0153a01b06381a01c80b34e4100ae00e30901342f80542f4044ee419034003029c1806341703140206301e00180911c0143abc0c13b02113b407, 0x430c054eec00386001132c042b300b53b8022f3c0742fc0a53bc0620980c20a00e1d5c091a700814280d213020312003⟩,
  ⟨1, 2, 0x455c0f27281c57b811189c1f39b4068000000a100a34900157201b092c1a01f80b3808100b180e30f4134494054490044ee41903540302b41809281703180209241e161c0912401441e80c148021148407, 0x44f0054eec0054bc73386001132c042c600b57bc02306c07442c0a58b006189c0c18a00e169009237808158c0d337403⟩,
  ⟨1, 2, 0x455c0f209c1c53a41120981f385c06800000063c0a342c0153a01b06381a01c80b34e4100ae00e30901342f80542f4044ee419034003029c1806341703140206301e00180911c0143abc0c13b02113b407, 0x430c054eec00386001132c042b300b53b8022f3c0742fc0a53bc0620980c20a00e1d5c091a900814280d218020312003⟩,
  ⟨1, 2, 0x455c0f209c1c53a41120981f385c06800000063c0a342c0153a01b06381a01c80b34e4100ae00e30901342f80542f4044ee419034003029c1806341703140206301e00180911c0143abc0c13b02113b407, 0x430c054eec00386001132c042b300b53b8022f3c0742fc0a53bc0620980c20a00e1d5c091a940814280d218820312003⟩,
  ⟨1, 2, 0x455c0f209c1c53a41120981f385c06800000063c0a342c0153a01b06381a01c80b34e4100ae00e30901342f80542f4044ee419034003029c1806341703140206301e00180911c0143abc0c13b02113b407, 0x430c054eec00386001132c042b300b53b8022f3c0742fc0a53bc0620980c20a00e1d5c091a980814280d218c20312003⟩,
  ⟨1, 2, 0x455c0f1c1c1c556811189c1f39b40680000006d80a34900157201b07581a01ac0b3808100ad40e30f4134494054490044ee41903540302981807381703180207341e161c0911a41441e80c12e82112d007, 0x44f0054eec00386001132c0454e0232c440b556c02306c07442c0a577c06189c0c18a00e1690091bdc0813540d337403⟩,
  ⟨1, 2, 0x455c0f1c1c1c556811189c1f39b40680000006d80a34900157201b07581a01ac0b3808100ad40e30f4134494054490044ee41903540302981807381703180207341e161c0911a41441e80c12e82112d007, 0x44f0054eec00386001132c0454ec232c440b556c02306c07442c0a577c06189c0c18a00e1690091be00813540d337403⟩,
  ⟨1, 2, 0x455c0f1c1c1c556811189c1f39b40680000006d80a34900157201b07581a01ac0b3808100ad40e30f4134494054490044ee41903540302981807381703180207341e161c0911a41441e80c12e82112d007, 0x44f0054eec00386001132c0454f0232c440b556c02306c07442c0a577c06189c0c18a00e1690091be40813540d337403⟩,
  ⟨1, 2, 0x455c0f1c1c1c556811189c1f39b40680000006d80a34900157201b07581a01ac0b3808100ad40e30f4134494054490044ee41903540302981807381703180207341e161c0911a41441e80c12e82112d007, 0x44f0054eec00386001132c0454f4232c440b556c02306c07442c0a577c06189c0c18a00e1690091be80813540d337403⟩,
  ⟨1, 2, 0x455c0f27281c57b811189c1f39b4068000000a100a34900157201b092c1a01fc0b3808100b1c0e30f4134494054490044ee41903540302b41809281703180209241e161c0912441441e80c148821148c07, 0x44f0054eec00550073386001132c042c600b57bc02306c07442c0a58b006189c0c18a00e169009237808158c0d337403⟩,
  ⟨1, 2, 0x455c0f25f41c585811189c1f39b40680000009a00a34900157901b09fc1a02200b3808100b080e30f4134494054490044ee41903540302a81809f81703180209f41e161c09122c1441e80c146421147407, 0x44f0054eec0046d48d386001132c042c7c0b585c02306c07442c0a588406189c0c18a00e1690091ba00814c80d337403⟩,
  ⟨1, 2, 0x455c0f1c1c1c556811189c1f39b40680000006d80a34900157201b07581a01ac0b3808100ad40e30f4134494054490044ee41903540302981807381703180207341e161c0911a41441e80c12e82112d007, 0x44f0054eec00386001132c045514232c440b556c02306c07442c0a577c06189c0c18a00e1690091c000813540d337403⟩,
  ⟨1, 2, 0x455c0f1c1c1c556811189c1f39b40680000006d80a34900157201b07581a01ac0b3808100ad40e30f4134494054490044ee41903540302981807381703180207341e161c0911a41441e80c12e82112d007, 0x44f0054eec00386001132c045530232c440b556c02306c07442c0a577c06189c0c18a00e1690091c0c0813540d337403⟩,
  ⟨1, 2, 0x455c0f1c1c1c556811189c1f39b40680000006d80a34900157201b07581a01ac0b3808100ad40e30f4134494054490044ee41903540302981807381703180207341e161c0911a41441e80c12e82112d007, 0x44f0054eec00386001132c045534232c440b556c02306c07442c0a577c06189c0c18a00e1690091c100813540d337403⟩,
  ⟨1, 2, 0x455c0f1c1c1c556811189c1f39b40680000006d80a34900157201b07581a01ac0b3808100ad40e30f4134494054490044ee41903540302981807381703180207341e161c0911a41441e80c12e82112d007, 0x44f0054eec00386001132c045538232c440b556c02306c07442c0a577c06189c0c18a00e1690091c140813540d337403⟩,
  ⟨1, 2, 0x455c0f1c1c1c556811189c1f39b40680000006d80a34900157201b07581a01ac0b3808100ad40e30f4134494054490044ee41903540302981807381703180207341e001c0911a41441e80c12e82112d007, 0x44f0054eec00386001132c042c440b556c02306c07442c0a577c06189c0c18a00e16900916a40813540d18c420337403⟩,
  ⟨1, 2, 0x455c0f1c1c1c556811189c1f39b40680000006d80a34900157201b07581a01ac0b3808100ad40e30f4134494054490044ee41903540302981807381703180207341e001c0911a41441e80c12e82112d007, 0x44f0054eec00386001132c042c440b556c02306c07442c0a577c06189c0c18a00e16900916b80813540d18f420337403⟩,
  ⟨1, 2, 0x455c0f1c1c1c556811189c1f39b40680000006d80a34900157201b07581a01ac0b3808100ad40e30f4134494054490044ee41903540302981807381703180207341e001c0911a41441e80c12e82112d007, 0x44f0054eec00386001132c042c440b556c02306c07442c0a577c06189c0c18a00e16900916fc0813540d191420337403⟩,
  ⟨1, 2, 0x455c0f1c1c1c556811189c1f39b40680000006d80a34900157201b07581a01ac0b3808100ad40e30f4134494054490044ee41903540302981807381703180207341e001c0911a41441e80c12e82112d007, 0x44f0054eec00386001132c042c440b556c02306c07442c0a577c06189c0c18a00e16900917040813540d193420337403⟩,
  ⟨1, 2, 0x455c0f1c1c1c556811189c1f39b40680000006d80a34900157201b07581a01ac0b3808100ad40e30f4134494054490044ee41903540302981807381703180207341e001c0911a41441e80c12e82112d007, 0x44f0054eec00386001132c042c440b556c02306c07442c0a577c06189c0c18a00e16900917080813540d193c20337403⟩,
  ⟨1, 2, 0x455c0f1c1c1c556811189c1f39b40680000006d80a34900157201b07581a01ac0b3808100ad40e30f4134494054490044ee41903540302981807381703180207341e001c0911a41441e80c12e82112d007, 0x44f0054eec00386001132c042c440b556c02306c07442c0a577c06189c0c18a00e169009170c0813540d194020337403⟩,
  ⟨1, 2, 0x455c0f26941c57f41120981f385c06800000099c0a342c0153a01b0a141a02080b34e4100b3c0e30901342f80542f4044ee41903400302a41809981703140209941e0018091278143abc0c14b82114c007, 0x430c054eec00386001132c042c780b57fc022f3c0742fc0a58000620980c20a00e1d5c091fa80814d80d20cc20312003⟩,
  ⟨1, 2, 0x455c0f1c1c1c556811189c1f39b40680000006d80a34900157201b07581a01ac0b3808100ad40e30f4134494054490044ee41903540302981807381703180207341e161c0911a41441e80c12e82112d007, 0x44f0054eec00386001132c04565c232c440b556c02306c07442c0a577c06189c0c18a00e16900919f80813540d337403⟩,
  ⟨1, 2, 0x455c0f26941c57f41120981f385c06800000099c0a342c0153a01b0a141a02080b34e4100b3c0e30901342f80542f4044ee41903400302a41809981703140209941e0018091278143abc0c14b82114c007, 0x430c054eec00386001132c042c780b57fc022f3c0742fc0a58000620980c20a00e1d5c091fb80814d80d211420312003⟩,
  ⟨1, 2, 0x455c0f1c1c1c556811189c1f39b40680000006d80a34900157201b07581a01ac0b3808100ad40e30f4134494054490044ee41903540302981807381703180207341e161c0911a41441e80c12e82112d007, 0x44f0054eec00386001132c0455b4232c440b556c02306c07442c0a577c06189c0c18a00e1690091c880813540d337403⟩,
  ⟨1, 2, 0x455c0f26941c57f41120981f385c06800000099c0a342c0153a01b0a141a02080b34e4100b3c0e30901342f80542f4044ee41903400302a41809981703140209941e0018091278143abc0c14b82114c007, 0x430c054eec00386001132c042c780b57fc022f3c0742fc0a58000620980c20a00e1d5c091fec0814d80d213020312003⟩,
  ⟨1, 2, 0x455c0f26941c57f41120981f385c06800000099c0a342c0153a01b0a141a02080b34e4100b3c0e30901342f80542f4044ee41903400302a41809981703140209941e0018091278143abc0c14b82114c007, 0x430c054eec00386001132c042c780b57fc022f3c0742fc0a58000620980c20a00e1d5c091ff40814d80d218020312003⟩,
  ⟨1, 2, 0x455c0f26941c57f41120981f385c06800000099c0a342c0153a01b0a141a02080b34e4100b3c0e30901342f80542f4044ee41903400302a41809981703140209941e0018091278143abc0c14b82114c007, 0x430c054eec00386001132c042c780b57fc022f3c0742fc0a58000620980c20a00e1d5c091ff80814d80d218820312003⟩,
  ⟨1, 2, 0x455c0f26941c57f41120981f385c06800000099c0a342c0153a01b0a141a02080b34e4100b3c0e30901342f80542f4044ee41903400302a41809981703140209941e0018091278143abc0c14b82114c007, 0x430c054eec00386001132c042c780b57fc022f3c0742fc0a58000620980c20a00e1d5c091ffc0814d80d218c20312003⟩,
  ⟨1, 2, 0x455c0f1c1c1c556811189c1f39b40680000006d80a34900157201b07581a01ac0b3808100ad40e30f4134494054490044ee41903540302981807381703180207341e161c0911a41441e80c12e82112d007, 0x44f0054eec00386001132c0455d4232c440b556c02306c07442c0a577c06189c0c18a00e1690091c900813540d337403⟩,
  ⟨1, 2, 0x455c0f18901c577411189c1f39b40680000007bc0a34900157201b08181a01680b3808100aa00e30f4134494054490044ee41903500302b81808141703180208101e00200911701441e80c122421122807, 0x44f0054eec00386001132c042c480b577802306c07442c0a557006189c0c18a00e16900925680812840d18c420337403⟩,
  ⟨1, 2, 0x455c0f18901c577411189c1f39b40680000007bc0a34900157201b08181a01680b3808100aa00e30f4134494054490044ee41903500302b81808141703180208101e00200911701441e80c122421122807, 0x44f0054eec00386001132c042c480b577802306c07442c0a557006189c0c18a00e16900925780812840d18f420337403⟩,
  ⟨1, 2, 0x455c0f18901c577411189c1f39b40680000007bc0a34900157201b08181a01680b3808100aa00e30f4134494054490044ee41903500302b81808141703180208101e00200911701441e80c122421122807, 0x44f0054eec00386001132c042c480b577802306c07442c0a557006189c0c18a00e16900925ac0812840d191420337403⟩,
  ⟨1, 2, 0x455c0f18901c577411189c1f39b40680000007bc0a34900157201b08181a01680b3808100aa00e30f4134494054490044ee41903500302b81808141703180208101e00200911701441e80c122421122807, 0x44f0054eec00386001132c042c480b577802306c07442c0a557006189c0c18a00e16900925b80812840d193420337403⟩,
  ⟨1, 2, 0x455c0f18901c577411189c1f39b40680000007bc0a34900157201b08181a01680b3808100aa00e30f4134494054490044ee41903500302b81808141703180208101e00200911701441e80c122421122807, 0x44f0054eec00386001132c042c480b577802306c07442c0a557006189c0c18a00e16900925bc0812840d193c20337403⟩,
  ⟨1, 2, 0x455c0f18901c577411189c1f39b40680000007bc0a34900157201b08181a01680b3808100aa00e30f4134494054490044ee41903500302b81808141703180208101e00200911701441e80c122421122807, 0x44f0054eec00386001132c042c480b577802306c07442c0a557006189c0c18a00e16900925c00812840d194020337403⟩,
  ⟨1, 2, 0x455c0f24981c58881120981f385c06800000075c0a342c0157b01b0a1c1a01dc0b34e4100aec0e30901342f80542f4044ee41903400302a0180a08170314020a041e00180911d8143abc0c140821141c07, 0x430c054eec00386001132c042c800b588c022f3c0742fc0a58900620980c20a00e1d5c091b100814680d20cc20312003⟩,
  ⟨1, 2, 0x455c0f24981c58881120981f385c06800000075c0a342c0157b01b0a1c1a01dc0b34e4100aec0e30901342f80542f4044ee41903400302a0180a08170314020a041e00180911d8143abc0c140821141c07, 0x430c054eec00386001132c042c800b588c022f3c0742fc0a58900620980c20a00e1d5c091b200814680d211420312003⟩,
  ⟨1, 2, 0x455c0f24981c58881120981f385c06800000075c0a342c0157b01b0a1c1a01dc0b34e4100aec0e30901342f80542f4044ee41903400302a0180a08170314020a041e00180911d8143abc0c140821141c07, 0x430c054eec00386001132c042c800b588c022f3c0742fc0a58900620980c20a00e1d5c091b540814680d213020312003⟩,
  ⟨1, 2, 0x455c0f24981c58881120981f385c06800000075c0a342c0157b01b0a1c1a01dc0b34e4100aec0e30901342f80542f4044ee41903400302a0180a08170314020a041e00180911d8143abc0c140821141c07, 0x430c054eec00386001132c042c800b588c022f3c0742fc0a58900620980c20a00e1d5c091b5c0814680d218020312003⟩,
  ⟨1, 2, 0x455c0f24981c58881120981f385c06800000075c0a342c0157b01b0a1c1a01dc0b34e4100aec0e30901342f80542f4044ee41903400302a0180a08170314020a041e00180911d8143abc0c140821141c07, 0x430c054eec00386001132c042c800b588c022f3c0742fc0a58900620980c20a00e1d5c091b600814680d218820312003⟩,
  ⟨1, 2, 0x455c0f24981c58881120981f385c06800000075c0a342c0157b01b0a1c1a01dc0b34e4100aec0e30901342f80542f4044ee41903400302a0180a08170314020a041e00180911d8143abc0c140821141c07, 0x430c054eec00386001132c042c800b588c022f3c0742fc0a58900620980c20a00e1d5c091b640814680d218c20312003⟩,
  ⟨1, 2, 0x455c0f26981c579811189c1f39b4068000000a0c0a34900157201b08cc1a02140b3808100b400e30f4134494054490044ee41903540302ac1808c81703180208c41e001c09127c1441e80c14bc2114c407, 0x44f0054eec00386001132c042c5c0b579c02306c07442c0a586006189c0c18a00e16900920240814e80d18c420337403⟩,
  ⟨1, 2, 0x455c0f26981c579811189c1f39b4068000000a0c0a34900157201b08cc1a02140b3808100b400e30f4134494054490044ee41903540302ac1808c81703180208c41e001c09127c1441e80c14bc2114c407, 0x44f0054eec00386001132c042c5c0b579c02306c07442c0a586006189c0c18a00e16900920340814e80d18f420337403⟩,
  ⟨1, 2, 0x455c0f26981c579811189c1f39b4068000000a0c0a34900157201b08cc1a02140b3808100b400e30f4134494054490044ee41903540302ac1808c81703180208c41e001c09127c1441e80c14bc2114c407, 0x44f0054eec00386001132c042c5c0b579c02306c07442c0a586006189c0c18a00e16900920680814e80d191420337403⟩,
  ⟨1, 2, 0x455c0f26981c579811189c1f39b4068000000a0c0a34900157201b08cc1a02140b3808100b400e30f4134494054490044ee41903540302ac1808c81703180208c41e001c09127c1441e80c14bc2114c407, 0x44f0054eec00386001132c042c5c0b579c02306c07442c0a586006189c0c18a00e16900920700814e80d193420337403⟩,
  ⟨1, 2, 0x455c0f26981c579811189c1f39b4068000000a0c0a34900157201b08cc1a02140b3808100b400e30f4134494054490044ee41903540302ac1808c81703180208c41e001c09127c1441e80c14bc2114c407, 0x44f0054eec00386001132c042c5c0b579c02306c07442c0a586006189c0c18a00e16900920740814e80d193c20337403⟩,
  ⟨1, 2, 0x455c0f26981c579811189c1f39b4068000000a0c0a34900157201b08cc1a02140b3808100b400e30f4134494054490044ee41903540302ac1808c81703180208c41e001c09127c1441e80c14bc2114c407, 0x44f0054eec00386001132c042c5c0b579c02306c07442c0a586006189c0c18a00e16900920780814e80d194020337403⟩,
  ⟨1, 2, 0x455c0f27281c57b811189c1f39b4068000000a100a34900157201b092c1a02300b3808100b580e30f4134494054490044ee41903540302b41809281703180209241e001c0912a41441e80c14d02114ec07, 0x44f0054eec00386001132c042c600b57bc02306c07442c0a58b006189c0c18a00e169009239808158c0d18c420337403⟩,
  ⟨1, 2, 0x455c0f27281c57b811189c1f39b4068000000a100a34900157201b092c1a02300b3808100b580e30f4134494054490044ee41903540302b41809281703180209241e001c0912a41441e80c14d02114ec07, 0x44f0054eec00386001132c042c600b57bc02306c07442c0a58b006189c0c18a00e16900923a808158c0d18f420337403⟩,
  ⟨1, 2, 0x455c0f27281c57b811189c1f39b4068000000a100a34900157201b092c1a02300b3808100b580e30f4134494054490044ee41903540302b41809281703180209241e001c0912a41441e80c14d02114ec07, 0x44f0054eec00386001132c042c600b57bc02306c07442c0a58b006189c0c18a00e16900923dc08158c0d191420337403⟩,
  ⟨1, 2, 0x455c0f27281c57b811189c1f39b4068000000a100a34900157201b092c1a02300b3808100b580e30f4134494054490044ee41903540302b41809281703180209241e001c0912a41441e80c14d02114ec07, 0x44f0054eec00386001132c042c600b57bc02306c07442c0a58b006189c0c18a00e16900923e408158c0d193420337403⟩,
  ⟨1, 2, 0x455c0f27281c57b811189c1f39b4068000000a100a34900157201b092c1a02300b3808100b580e30f4134494054490044ee41903540302b41809281703180209241e001c0912a41441e80c14d02114ec07, 0x44f0054eec00386001132c042c600b57bc02306c07442c0a58b006189c0c18a00e16900923e808158c0d193c20337403⟩,
  ⟨1, 2, 0x455c0f27281c57b811189c1f39b4068000000a100a34900157201b092c1a02300b3808100b580e30f4134494054490044ee41903540302b41809281703180209241e001c0912a41441e80c14d02114ec07, 0x44f0054eec00386001132c042c600b57bc02306c07442c0a58b006189c0c18a00e16900923ec08158c0d194020337403⟩]

/-- States 384 to 447. -/
def states0384 : List PackedRow := [
  ⟨1, 2, 0x455c0f272c1c57d811189c1f39b40680000008700a34900157d01b098c1a02380b3808100b5c0e30f4134494054490044ee41903500302b01809881703180209841e00200912a81441e80c14d42114f007, 0x44f0054eec00386001132c042c740b57dc02306c07442c0a58b806189c0c18a00e16900924240815900d18c420337403⟩,
  ⟨1, 2, 0x455c0f272c1c57d811189c1f39b40680000008700a34900157d01b098c1a02380b3808100b5c0e30f4134494054490044ee41903500302b01809881703180209841e00200912a81441e80c14d42114f007, 0x44f0054eec00386001132c042c740b57dc02306c07442c0a58b806189c0c18a00e16900924340815900d18f420337403⟩,
  ⟨1, 2, 0x455c0f272c1c57d811189c1f39b40680000008700a34900157d01b098c1a02380b3808100b5c0e30f4134494054490044ee41903500302b01809881703180209841e00200912a81441e80c14d42114f007, 0x44f0054eec00386001132c042c740b57dc02306c07442c0a58b806189c0c18a00e16900924680815900d191420337403⟩,
  ⟨1, 2, 0x455c0f272c1c57d811189c1f39b40680000008700a34900157d01b098c1a02380b3808100b5c0e30f4134494054490044ee41903500302b01809881703180209841e00200912a81441e80c14d42114f007, 0x44f0054eec00386001132c042c740b57dc02306c07442c0a58b806189c0c18a00e16900924700815900d193420337403⟩,
  ⟨1, 2, 0x455c0f272c1c57d811189c1f39b40680000008700a34900157d01b098c1a02380b3808100b5c0e30f4134494054490044ee41903500302b01809881703180209841e00200912a81441e80c14d42114f007, 0x44f0054eec00386001132c042c740b57dc02306c07442c0a58b806189c0c18a00e16900924740815900d193c20337403⟩,
  ⟨1, 2, 0x455c0f272c1c57d811189c1f39b40680000008700a34900157d01b098c1a02380b3808100b5c0e30f4134494054490044ee41903500302b01809881703180209841e00200912a81441e80c14d42114f007, 0x44f0054eec00386001132c042c740b57dc02306c07442c0a58b806189c0c18a00e16900924780815900d194020337403⟩,
  ⟨1, 2, 0x455c0f25f41c585811189c1f39b40680000009a00a34900157901b09fc1a02200b3808100b080e30f4134494054490044ee41903540302a81809f81703180209f41e001c09122c1441e80c146421147407, 0x44f0054eec00386001132c042c7c0b585c02306c07442c0a588406189c0c18a00e1690091cc80814c80d18c420337403⟩,
  ⟨1, 2, 0x455c0f25f41c585811189c1f39b40680000009a00a34900157901b09fc1a02200b3808100b080e30f4134494054490044ee41903540302a81809f81703180209f41e001c09122c1441e80c146421147407, 0x44f0054eec00386001132c042c7c0b585c02306c07442c0a588406189c0c18a00e1690091cd80814c80d18f420337403⟩,
  ⟨1, 2, 0x455c0f25f41c585811189c1f39b40680000009a00a34900157901b09fc1a02200b3808100b080e30f4134494054490044ee41903540302a81809f81703180209f41e001c09122c1441e80c146421147407, 0x44f0054eec00386001132c042c7c0b585c02306c07442c0a588406189c0c18a00e1690091d0c0814c80d191420337403⟩,
  ⟨1, 2, 0x455c0f25f41c585811189c1f39b40680000009a00a34900157901b09fc1a02200b3808100b080e30f4134494054490044ee41903540302a81809f81703180209f41e001c09122c1441e80c146421147407, 0x44f0054eec00386001132c042c7c0b585c02306c07442c0a588406189c0c18a00e1690091d140814c80d193420337403⟩,
  ⟨1, 2, 0x455c0f25f41c585811189c1f39b40680000009a00a34900157901b09fc1a02200b3808100b080e30f4134494054490044ee41903540302a81809f81703180209f41e001c09122c1441e80c146421147407, 0x44f0054eec00386001132c042c7c0b585c02306c07442c0a588406189c0c18a00e1690091d180814c80d193c20337403⟩,
  ⟨1, 2, 0x455c0f25f41c585811189c1f39b40680000009a00a34900157901b09fc1a02200b3808100b080e30f4134494054490044ee41903540302a81809f81703180209f41e001c09122c1441e80c146421147407, 0x44f0054eec00386001132c042c7c0b585c02306c07442c0a588406189c0c18a00e1690091d1c0814c80d194020337403⟩,
  ⟨1, 2, 0x455c0f209c1c53a41120981f385c06800000063c0a342c0153a01b06381a01c80b34e4100ae00e30901342f80542f4044ee419034003029c1806341703140206301e16140911c0143abc0c13b02113b407, 0x430c054eec00386001132c042b300b53b8022f3c0742fc0a53bc0620980c20a00e1d5c091a000814280d312003⟩,
  ⟨1, 2, 0x455c0f209c1c53a41120981f385c06800000063c0a342c0153a01b06381a01c80b34e4100ae00e30901342f80542f4044ee419034003029c1806341703140206301e16140911c0143abc0c13b02113b407, 0x430c054eec00386001132c042b300b53b8022f3c0742fc0a53bc0620980c20a00e1d5c091a040814280d312003⟩,
  ⟨1, 2, 0x455c0f27301c577411189c1f39b40680000007bc0a34900157201b08181a023c0b3808100b6c0e30f4134494054490044ee41903500302b81808141703180208101e16180912bc1441e80c14f42114f807, 0x44f0054eec00386001132c042c480b577802306c07442c0a53fc06189c0c18a00e16900925640815940d337403⟩,
  ⟨1, 2, 0x455c0f209c1c53a41120981f385c06800000063c0a342c0153a01b06381a01c80b34e4100ae00e30901342f80542f4044ee419034003029c1806341703140206301e16140911c0143abc0c13b02113b407, 0x430c054eec00386001132c042b300b53b8022f3c0742fc0a53bc0620980c20a00e1d5c091a180814280d312003⟩,
  ⟨1, 2, 0x455c0f209c1c53a41120981f385c06800000063c0a342c0153a01b06381a01c80b34e4100ae00e30901342f80542f4044ee419034003029c1806341703140206301e16140911c0143abc0c13b02113b407, 0x430c054eec00386001132c042b300b53b8022f3c0742fc0a53bc0620980c20a00e1d5c091b900814280d312003⟩,
  ⟨1, 2, 0x455c0f209c1c53a41120981f385c06800000063c0a342c0153a01b06381a01c80b34e4100ae00e30901342f80542f4044ee419034003029c1806341703140206301e16140911c0143abc0c13b02113b407, 0x430c054eec00386001132c042b300b53b8022f3c0742fc0a53bc0620980c20a00e1d5c091a200814280d312003⟩,
  ⟨1, 2, 0x455c0f24a81c556811189c1f39b40680000006d80a34900157201b07581a01e80b3808100ae40e30f4134494054490044ee41903500302981807381703180207341e16180911c41441e80c13bc21143007, 0x44f0054eec00386001132c042c440b14342d556c02306c07442c0a3ae006189c0c18a00e1690091a240813542b337403⟩,
  ⟨1, 2, 0x455c0f1c241c577411189c1f39b40680000007bc0a34900157201b08181a01a40b3808100ad00e30f4134494054490044ee41903580302b81808141703180208101e16200911a01441e80c12dc2112e007, 0x44f0054eec00386001132c042c480b13602d577802306c07442c0a384406189c0c18a00e16900925640812842b337403⟩,
  ⟨1, 2, 0x455c0f209c1c53a41120981f385c06800000063c0a342c0153a01b06381a01c80b34e4100ae00e30901342f80542f4044ee419034003029c1806341703140206301e16140911c0143abc0c13b02113b407, 0x430c054eec00386001132c042b300b53b8022f3c0742fc0a53bc0620980c20a00e1d5c091a280814280d312003⟩,
  ⟨1, 2, 0x455c0f209c1c53a41120981f385c06800000063c0a342c0153a01b06381a01c80b34e4100ae00e30901342f80542f4044ee419034003029c1806341703140206301e16140911c0143abc0c13b02113b407, 0x430c054eec00386001132c042b300b53b8022f3c0742fc0a53bc0620980c20a00e1d5c091a380814280d312003⟩,
  ⟨1, 2, 0x455c0f209c1c53a41120981f385c06800000063c0a342c0153a01b06381a01c80b34e4100ae00e30901342f80542f4044ee419034003029c1806341703140206301e16140911c0143abc0c13b02113b407, 0x430c054eec00386001132c042b300b53b8022f3c0742fc0a53bc0620980c20a00e1d5c091a400814280d312003⟩,
  ⟨1, 2, 0x455c0f26981c579811189c1f39b4068000000a0c0a34900157201b08cc1a02140b3808100b400e30f4134494054490044ee41903540302ac1808c81703180208c41e161c09127c1441e80c14bc2114c407, 0x44f0054eec00386001132c042c5c0b579c02306c07442c0a586006189c0c18a00e169009211c0814e80d337403⟩,
  ⟨1, 2, 0x455c0f209c1c53a41120981f385c06800000063c0a342c0153a01b06381a01c80b34e4100ae00e30901342f80542f4044ee419034003029c1806341703140206301e16140911c0143abc0c13b02113b407, 0x430c054eec00386001132c042b300b53b8022f3c0742fc0a53bc0620980c20a00e1d5c091a440814280d312003⟩,
  ⟨1, 2, 0x455c0f209c1c53a41120981f385c06800000063c0a342c0153a01b06381a01c80b34e4100ae00e30901342f80542f4044ee419034003029c1806341703140206301e16140911c0143abc0c13b02113b407, 0x430c054eec00386001132c042b300b53b8022f3c0742fc0a53bc0620980c20a00e1d5c091bb00814280d312003⟩,
  ⟨1, 2, 0x455c0f209c1c53a41120981f385c06800000063c0a342c0153a01b06381a01c80b34e4100ae00e30901342f80542f4044ee419034003029c1806341703140206301e16140911c0143abc0c13b02113b407, 0x430c054eec00386001132c042b300b53b8022f3c0742fc0a53bc0620980c20a00e1d5c091a480814280d312003⟩,
  ⟨1, 2, 0x455c0f209c1c53a41120981f385c06800000063c0a342c0153a01b06381a01c80b34e4100ae00e30901342f80542f4044ee419034003029c1806341703140206301e16140911c0143abc0c13b02113b407, 0x430c054eec00386001132c042b300b53b8022f3c0742fc0a53bc0620980c20a00e1d5c091a4c0814280d312003⟩,
  ⟨1, 2, 0x455c0f209c1c53a41120981f385c06800000063c0a342c0153a01b06381a01c80b34e4100ae00e30901342f80542f4044ee419034003029c1806341703140206301e16140911c0143abc0c13b02113b407, 0x430c054eec00386001132c042b300b53b8022f3c0742fc0a53bc0620980c20a00e1d5c091a500814280d312003⟩,
  ⟨1, 2, 0x455c0f209c1c53a41120981f385c06800000063c0a342c0153a01b06381a01c80b34e4100ae00e30901342f80542f4044ee419034003029c1806341703140206301e16140911c0143abc0c13b02113b407, 0x430c054eec00386001132c042b300b53b8022f3c0742fc0a53bc0620980c20a00e1d5c091a540814280d312003⟩,
  ⟨1, 2, 0x455c0f209c1c53a41120981f385c06800000063c0a342c0153a01b06381a01c80b34e4100ae00e30901342f80542f4044ee419034003029c1806341703140206301e16140911c0143abc0c13b02113b407, 0x430c054eec00386001132c042b300b53b8022f3c0742fc0a53bc0620980c20a00e1d5c091a580814280d312003⟩,
  ⟨1, 2, 0x455c0f209c1c53a41120981f385c06800000063c0a342c0153a01b06381a01c80b34e4100ae00e30901342f80542f4044ee419034003029c1806341703140206301e16140911c0143abc0c13b02113b407, 0x430c054eec00386001132c042b300b53b8022f3c0742fc0a53bc0620980c20a00e1d5c091a5c0814280d312003⟩,
  ⟨1, 2, 0x455c0f209c1c53a41120981f385c06800000063c0a342c0153a01b06381a01c80b34e4100ae00e30901342f80542f4044ee419034003029c1806341703140206301e16140911c0143abc0c13b02113b407, 0x430c054eec00386001132c042b300b53b8022f3c0742fc0a53bc0620980c20a00e1d5c091a600814280d312003⟩,
  ⟨1, 2, 0x455c0f209c1c53a41120981f385c06800000063c0a342c0153a01b06381a01c80b34e4100ae00e30901342f80542f4044ee419034003029c1806341703140206301e16140911c0143abc0c13b02113b407, 0x430c054eec00386001132c042b300b53b8022f3c0742fc0a53bc0620980c20a00e1d5c091a640814280d312003⟩,
  ⟨1, 2, 0x455c0f209c1c53a41120981f385c06800000063c0a342c0153a01b06381a01c80b34e4100ae00e30901342f80542f4044ee419034003029c1806341703140206301e16140911c0143abc0c13b02113b407, 0x430c054eec00386001132c042b300b53b8022f3c0742fc0a53bc0620980c20a00e1d5c091a680814280d312003⟩,
  ⟨1, 2, 0x455c0f209c1c53a41120981f385c06800000063c0a342c0153a01b06381a01c80b34e4100ae00e30901342f80542f4044ee419034003029c1806341703140206301e16140911c0143abc0c13b02113b407, 0x430c054eec00386001132c042b300b53b8022f3c0742fc0a53bc0620980c20a00e1d5c091a6c0814280d312003⟩,
  ⟨1, 2, 0x455c0f209c1c53a41120981f385c06800000063c0a342c0153a01b06381a01c80b34e4100ae00e30901342f80542f4044ee419034003029c1806341703140206301e16140911c0143abc0c13b02113b407, 0x430c054eec00386001132c042b300b53b8022f3c0742fc0a53bc0620980c20a00e1d5c091a740814280d312003⟩,
  ⟨1, 2, 0x455c0f209c1c53a41120981f385c06800000063c0a342c0153a01b06381a01c80b34e4100ae00e30901342f80542f4044ee419034003029c1806341703140206301e16140911c0143abc0c13b02113b407, 0x430c054eec00386001132c042b300b53b8022f3c0742fc0a53bc0620980c20a00e1d5c091a780814280d312003⟩,
  ⟨1, 2, 0x455c0f27281c57b811189c1f39b4068000000a100a34900157201b092c1a02300b3808100b580e30f4134494054490044ee41903540302b41809281703180209241e161c0912a41441e80c14d02114ec07, 0x44f0054eec00386001132c042c600b57bc02306c07442c0a58b006189c0c18a00e169009214008158c0d337403⟩,
  ⟨1, 2, 0x455c0f209c1c53a41120981f385c06800000063c0a342c0153a01b06381a01c80b34e4100ae00e30901342f80542f4044ee419034003029c1806341703140206301e16140911c0143abc0c13b02113b407, 0x430c054eec00386001132c042b300b53b8022f3c0742fc0a53bc0620980c20a00e1d5c091a7c0814280d312003⟩,
  ⟨1, 2, 0x455c0f209c1c53a41120981f385c06800000063c0a342c0153a01b06381a01c80b34e4100ae00e30901342f80542f4044ee419034003029c1806341703140206301e16140911c0143abc0c13b02113b407, 0x430c054eec00386001132c042b300b53b8022f3c0742fc0a53bc0620980c20a00e1d5c091a800814280d312003⟩,
  ⟨1, 2, 0x455c0f209c1c53a41120981f385c06800000063c0a342c0153a01b06381a01c80b34e4100ae00e30901342f80542f4044ee419034003029c1806341703140206301e16140911c0143abc0c13b02113b407, 0x430c054eec00386001132c042b300b53b8022f3c0742fc0a53bc0620980c20a00e1d5c091a840814280d312003⟩,
  ⟨1, 2, 0x455c0f209c1c53a41120981f385c06800000063c0a342c0153a01b06381a01c80b34e4100ae00e30901342f80542f4044ee419034003029c1806341703140206301e16140911c0143abc0c13b02113b407, 0x430c054eec00386001132c042b300b53b8022f3c0742fc0a53bc0620980c20a00e1d5c091bbc0814280d312003⟩,
  ⟨1, 2, 0x455c0f1c1c1c556811189c1f39b40680000006d80a34900157201b07581a01ac0b3808100ad40e30f4134494054490044ee41903540302981807381703180207341e161c0911a41441e80c12e82112d007, 0x44f0054eec00386001132c042c440b556c02306c07442c0a577c06189c0c18a00e1690091bc40813540d337403⟩,
  ⟨1, 2, 0x455c0f209c1c53a41120981f385c06800000063c0a342c0153a01b06381a01c80b34e4100ae00e30901342f80542f4044ee419034003029c1806341703140206301e16140911c0143abc0c13b02113b407, 0x430c054eec00386001132c042b300b53b8022f3c0742fc0a53bc0620980c20a00e1d5c091a9c0814280d312003⟩,
  ⟨1, 2, 0x455c0f209c1c53a41120981f385c06800000063c0a342c0153a01b06381a01c80b34e4100ae00e30901342f80542f4044ee419034003029c1806341703140206301e16140911c0143abc0c13b02113b407, 0x430c054eec00386001132c042b300b53b8022f3c0742fc0a53bc0620980c20a00e1d5c091aa00814280d312003⟩,
  ⟨1, 2, 0x455c0f1c1c1c556811189c1f39b40680000006d80a34900157201b07581a01ac0b3808100ad40e30f4134494054490044ee41903540302981807381703180207341e161c0911a41441e80c12e82112d007, 0x44f0054eec00386001132c042c440b556c02306c07442c0a577c06189c0c18a00e1690091a240813540d337403⟩,
  ⟨1, 2, 0x455c0f209c1c20989f53a4111dc080385c06800000063c0a342c0153a01b06381a01c80b34e4100ae00e30901342f80542f4044ee419034003029c1806341703140206301e16140911c0143abc0c13b02113b407, 0x430c054eec00386001132c042b300b53b8022f3c0742fc0a53bc0620980c20a00e1d5c091a000814280d312003⟩,
  ⟨1, 2, 0x455c0f1c1c1c556811189c1f39b40680000006d80a34900157201b07581a01ac0b3808100ad40e30f4134494054490044ee41903540302981807381703180207341e161c0911a41441e80c12e82112d007, 0x44f0054eec00386001132c042c440b556c02306c07442c0a577c06189c0c18a00e1690091dd00813540d337403⟩,
  ⟨1, 2, 0x455c0f1c1c1c556811189c1f39b40680000006d80a34900157201b07581a01ac0b3808100ad40e30f4134494054490044ee41903540302981807381703180207341e161c0911a41441e80c12e82112d007, 0x44f0054eec00386001132c042c440b556c02306c07442c0a577c06189c0c18a00e1690091dd40813540d337403⟩,
  ⟨1, 2, 0x455c0f209c1c53a41120981f385c06800000063c0a342c0153a01b06381a01c80b34e4100ae00e30901342f80542f4044ee419034003029c1806341703140206301e16140911c0143abc0c13b02113b407, 0x430c054eec00386001132c042b300b53b8022f3c0742fc0a53bc0620980c20a00e1d5c091aac0814280d312003⟩,
  ⟨1, 2, 0x455c0f1c1c1c556811189c1f39b40680000006d80a34900157201b07581a01ac0b3808100ad40e30f4134494054490044ee41903540302981807381703180207341e161c0911a41441e80c12e82112d007, 0x44f0054eec00386001132c042c440b556c02306c07442c0a577c06189c0c18a00e1690091d9c0813540d337403⟩,
  ⟨1, 2, 0x455c0f26941c57f41120981f385c06800000099c0a342c0153a01b0a141a02080b34e4100b3c0e30901342f80542f4044ee41903400302a41809981703140209941e1614091278143abc0c14b82114c007, 0x430c054eec00386001132c042c780b57fc022f3c0742fc0a58000620980c20a00e1d5c091df80814d80d312003⟩,
  ⟨1, 2, 0x455c0f209c1c53a41120981f385c06800000063c0a342c0153a01b06381a01c80b34e4100ae00e30901342f80542f4044ee419034003029c1806341703140206301e16140911c0143abc0c13b02113b407, 0x430c054eec00386001132c042b300b53b8022f3c0742fc0a53bc0620980c20a00e1d5c091ab00814280d312003⟩,
  ⟨1, 2, 0x455c0f1c1c1c556811189c1f39b40680000006d80a34900157201b07581a01ac0b3808100ad40e30f4134494054490044ee41903540302981807381703180207341e161c0911a41441e80c12e82112d007, 0x44f0054eec00386001132c042c440b556c02306c07442c0a577c06189c0c18a00e16900916a00813540d337403⟩,
  ⟨1, 2, 0x455c0f1c1c1c556811189c1f39b40680000006d80a34900157201b07581a01ac0b3808100ad40e30f4134494054490044ee41903540302981807381703180207341e161c0911a41441e80c12e82112d007, 0x44f0054eec00386001132c042c440b556c02306c07442c0a577c06189c0c18a00e16900916a80813540d337403⟩,
  ⟨1, 2, 0x455c0f1c1c1c556811189c1f39b40680000006d80a34900157201b07581a01ac0b3808100ad40e30f4134494054490044ee41903540302981807381703180207341e161c0911a41441e80c12e82112d007, 0x44f0054eec00386001132c042c440b556c02306c07442c0a577c06189c0c18a00e16900916ac0813540d337403⟩,
  ⟨1, 2, 0x455c0f1c1c1c556811189c1f39b40680000006d80a34900157201b07581a01ac0b3808100ad40e30f4134494054490044ee41903540302981807381703180207341e161c0911a41441e80c12e82112d007, 0x44f0054eec00386001132c042c440b556c02306c07442c0a577c06189c0c18a00e16900916b40813540d337403⟩,
  ⟨1, 2, 0x455c0f1c1c1c556811189c1f39b40680000006d80a34900157201b07581a01ac0b3808100ad40e30f4134494054490044ee41903540302981807381703180207341e161c0911a41441e80c12e82112d007, 0x44f0054eec00386001132c042c440b556c02306c07442c0a577c06189c0c18a00e16900916bc0813540d337403⟩,
  ⟨1, 2, 0x455c0f1c1c1c556811189c1f39b40680000006d80a34900157201b07581a01ac0b3808100ad40e30f4134494054490044ee41903540302981807381703180207341e161c0911a41441e80c12e82112d007, 0x44f0054eec00386001132c042c440b556c02306c07442c0a577c06189c0c18a00e16900916c00813540d337403⟩,
  ⟨1, 2, 0x455c0f1c1c1c556811189c1f39b40680000006d80a34900157201b07581a01ac0b3808100ad40e30f4134494054490044ee41903540302981807381703180207341e161c0911a41441e80c12e82112d007, 0x44f0054eec00386001132c042c440b556c02306c07442c0a577c06189c0c18a00e16900916cc0813540d337403⟩,
  ⟨1, 2, 0x455c0f1c1c1c556811189c1f39b40680000006d80a34900157201b07581a01ac0b3808100ad40e30f4134494054490044ee41903540302981807381703180207341e161c0911a41441e80c12e82112d007, 0x44f0054eec00386001132c042c440b556c02306c07442c0a577c06189c0c18a00e16900916d00813540d337403⟩,
  ⟨1, 2, 0x455c0f1c1c1c556811189c1f39b40680000006d80a34900157201b07581a01ac0b3808100ad40e30f4134494054490044ee41903540302981807381703180207341e161c0911a41441e80c12e82112d007, 0x44f0054eec00386001132c042c440b556c02306c07442c0a577c06189c0c18a00e16900916d40813540d337403⟩,
  ⟨1, 2, 0x455c0f1c1c1c556811189c1f39b40680000006d80a34900157201b07581a01ac0b3808100ad40e30f4134494054490044ee41903540302981807381703180207341e161c0911a41441e80c12e82112d007, 0x44f0054eec00386001132c042c440b556c02306c07442c0a577c06189c0c18a00e16900916d80813540d337403⟩]

/-- States 448 to 511. -/
def states0448 : List PackedRow := [
  ⟨1, 2, 0x455c0f1c1c1c556811189c1f39b40680000006d80a34900157201b07581a01ac0b3808100ad40e30f4134494054490044ee41903540302981807381703180207341e161c0911a41441e80c12e82112d007, 0x44f0054eec00386001132c042c440b556c02306c07442c0a577c06189c0c18a00e16900916dc0813540d337403⟩,
  ⟨1, 2, 0x455c0f1c1c1c556811189c1f39b40680000006d80a34900157201b07581a01ac0b3808100ad40e30f4134494054490044ee41903540302981807381703180207341e161c0911a41441e80c12e82112d007, 0x44f0054eec00386001132c042c440b556c02306c07442c0a577c06189c0c18a00e16900916e00813540d337403⟩,
  ⟨1, 2, 0x455c0f1c1c1c556811189c1f39b40680000006d80a34900157201b07581a01ac0b3808100ad40e30f4134494054490044ee41903540302981807381703180207341e161c0911a41441e80c12e82112d007, 0x44f0054eec00386001132c042c440b556c02306c07442c0a577c06189c0c18a00e16900916e40813540d337403⟩,
  ⟨1, 2, 0x455c0f1c1c1c556811189c1f39b40680000006d80a34900157201b07581a01ac0b3808100ad40e30f4134494054490044ee41903540302981807381703180207341e161c0911a41441e80c12e82112d007, 0x44f0054eec00386001132c042c440b556c02306c07442c0a577c06189c0c18a00e16900916e80813540d337403⟩,
  ⟨1, 2, 0x455c0f1c1c1c556811189c1f39b40680000006d80a34900157201b07581a01ac0b3808100ad40e30f4134494054490044ee41903540302981807381703180207341e161c0911a41441e80c12e82112d007, 0x44f0054eec00386001132c042c440b556c02306c07442c0a577c06189c0c18a00e16900916ec0813540d337403⟩,
  ⟨1, 2, 0x455c0f1c1c1c556811189c1f39b40680000006d80a34900157201b07581a01ac0b3808100ad40e30f4134494054490044ee41903540302981807381703180207341e161c0911a41441e80c12e82112d007, 0x44f0054eec00386001132c042c440b556c02306c07442c0a577c06189c0c18a00e16900916f00813540d337403⟩,
  ⟨1, 2, 0x455c0f1c1c1c556811189c1f39b40680000006d80a34900157201b07581a01ac0b3808100ad40e30f4134494054490044ee41903540302981807381703180207341e161c0911a41441e80c12e82112d007, 0x44f0054eec00386001132c042c440b556c02306c07442c0a577c06189c0c18a00e16900916f40813540d337403⟩,
  ⟨1, 2, 0x455c0f1c1c1c556811189c1f39b40680000006d80a34900157201b07581a01ac0b3808100ad40e30f4134494054490044ee41903540302981807381703180207341e161c0911a41441e80c12e82112d007, 0x44f0054eec00386001132c042c440b556c02306c07442c0a577c06189c0c18a00e16900917000813540d337403⟩,
  ⟨1, 2, 0x455c0f1c1c1c556811189c1f39b40680000006d80a34900157201b07581a01ac0b3808100ad40e30f4134494054490044ee41903540302981807381703180207341e161c0911a41441e80c12e82112d007, 0x44f0054eec00386001132c042c440b556c02306c07442c0a577c06189c0c18a00e1690091c3c0813540d337403⟩,
  ⟨1, 2, 0x455c0f1c1c1c556811189c1f39b40680000006d80a34900157201b07581a01ac0b3808100ad40e30f4134494054490044ee41903540302981807381703180207341e161c0911a41441e80c12e82112d007, 0x44f0054eec00386001132c042c440b556c02306c07442c0a577c06189c0c18a00e16900917100813540d337403⟩,
  ⟨1, 2, 0x455c0f1c1c1c556811189c1f39b40680000006d80a34900157201b07581a01ac0b3808100ad40e30f4134494054490044ee41903540302981807381703180207341e161c0911a41441e80c12e82112d007, 0x44f0054eec00386001132c042c440b556c02306c07442c0a577c06189c0c18a00e16900917140813540d337403⟩,
  ⟨1, 2, 0x455c0f1c1c1c189c9f55681117248039b40680000006d80a34900157201b07581a01ac0b3808100ad40e30f4134494054490044ee41903540302981807381703180207341e161c0911a41441e80c12e82112d007, 0x44f0054eec00386001132c042c440b556c02306c07442c0a577c06189c0c18a00e16900916940813540d337403⟩,
  ⟨1, 2, 0x455c0f1c1c1c556811189c1f39b40680000006d80a34900157201b07581a01ac0b3808100ad40e30f4134494054490044ee41903540302981807381703180207341e161c0911a41441e80c12e82112d007, 0x44f0054eec00386001132c042c440b556c02306c07442c0a577c06189c0c18a00e169009172c0813540d337403⟩,
  ⟨1, 2, 0x455c0f1c1c1c556811189c1f39b40680000006d80a34900157201b07581a01ac0b3808100ad40e30f4134494054490044ee41903540302981807381703180207341e161c0911a41441e80c12e82112d007, 0x44f0054eec00386001132c042c440b556c02306c07442c0a577c06189c0c18a00e16900916940813540d337403⟩,
  ⟨1, 2, 0x455c0f1c1c1c556811189c1f39b40680000006d80a34900157201b07581a01ac0b3808100ad40e30f4134494054490044ee41903540302981807381703180207341e161c0911a41441e80c12e82112d007, 0x44f0054eec00386001132c042c440b556c02306c07442c0a577c06189c0c18a00e16900916980813540d337403⟩,
  ⟨1, 2, 0x455c0f24981c58881120981f385c06800000075c0a342c0157b01b0a1c1a01dc0b34e4100aec0e30901342f80542f4044ee41903400302a0180a08170314020a041e16140911d8143abc0c140821141c07, 0x430c054eec00386001132c042c800b588c022f3c0742fc0a58900620980c20a00e1d5c091af40814680d312003⟩,
  ⟨1, 2, 0x455c0f272c1c57d811189c1f39b40680000008700a34900157d01b098c1a02380b3808100b5c0e30f4134494054490044ee41903500302b01809881703180209841e16180912a81441e80c14d42114f007, 0x44f0054eec00386001132c042c740b57dc02306c07442c0a58b806189c0c18a00e16900923200815900d337403⟩,
  ⟨1, 2, 0x455c0f18901c189c9f57741122e88039b40680000007bc0a34900157201b08181a01680b3808100aa00e30f4134494054490044ee41903500302b81808141703180208101e16180911701441e80c122421122807, 0x44f0054eec00386001132c042c480b577802306c07442c0a557006189c0c18a00e16900925dc0812840d337403⟩,
  ⟨1, 2, 0x455c0f1c1c1c189c9f55681122e88039b40680000006d80a34900157201b07581a01ac0b3808100ad40e30f4134494054490044ee41903540302981807381703180207341e161c0911a41441e80c12e82112d007, 0x44f0054eec00386001132c042c440b556c02306c07442c0a577c06189c0c18a00e16900916940813540d337403⟩,
  ⟨1, 2, 0x455c0f1c1c1c189c9f55681125488039b40680000006d80a34900157201b07581a01ac0b3808100ad40e30f4134494054490044ee41903540302981807381703180207341e161c0911a41441e80c12e82112d007, 0x44f0054eec00386001132c042c440b556c02306c07442c0a577c06189c0c18a00e16900916940813540d337403⟩,
  ⟨1, 2, 0x455c0f18901c189c9f57741125488039b40680000007bc0a34900157201b08181a01680b3808100aa00e30f4134494054490044ee41903500302b81808141703180208101e16180911701441e80c122421122807, 0x44f0054eec00386001132c042c480b577802306c07442c0a557006189c0c18a00e16900925dc0812840d337403⟩,
  ⟨1, 2, 0x455c0f1c1c1c189c9f5568111f688039b40680000006d80a34900157201b07581a01ac0b3808100ad40e30f4134494054490044ee41903540302981807381703180207341e161c0911a41441e80c12e82112d007, 0x44f0054eec00386001132c042c440b556c02306c07442c0a577c06189c0c18a00e16900916940813540d337403⟩,
  ⟨1, 2, 0x455c0f278c1c577411189c1f39b40680000007bc0a34900157201b08181a02440b3808100bc80e30f4134494054490044ee41903500302b81808141703180208101e16180912f41441e80c150821150c07, 0x44f0054eec00386001132c042c480b577802306c07442c0a558c06189c0c18a00e16900925640815980d337403⟩,
  ⟨1, 2, 0x455c0f24981c58881120981f385c06800000075c0a342c0157b01b0a1c1a01dc0b34e4100aec0e30901342f80542f4044ee41903400302a0180a08170314020a041e16140911d8143abc0c140821141c07, 0x430c054eec00386001132c042c800b588c022f3c0742fc0a58900620980c20a00e1d5c091b800814680d312003⟩,
  ⟨1, 2, 0x455c0f26941c57f41120981f385c06800000099c0a342c0153a01b0a141a02080b34e4100b3c0e30901342f80542f4044ee41903400302a41809981703140209941e1614091278143abc0c14b82114c007, 0x430c054eec00386001132c042c780b57fc022f3c0742fc0a58000620980c20a00e1d5c091fac0814d80d312003⟩,
  ⟨1, 2, 0x455c0f26941c57f41120981f385c06800000099c0a342c0153a01b0a141a02080b34e4100b3c0e30901342f80542f4044ee41903400302a41809981703140209941e1614091278143abc0c14b82114c007, 0x430c054eec00386001132c042c780b57fc022f3c0742fc0a58000620980c20a00e1d5c091fb00814d80d312003⟩,
  ⟨1, 2, 0x455c0f26941c57f41120981f385c06800000099c0a342c0153a01b0a141a02080b34e4100b3c0e30901342f80542f4044ee41903400302a41809981703140209941e1614091278143abc0c14b82114c007, 0x430c054eec00386001132c042c780b57fc022f3c0742fc0a58000620980c20a00e1d5c091fb40814d80d312003⟩,
  ⟨1, 2, 0x455c0f26941c57f41120981f385c06800000099c0a342c0153a01b0a141a02080b34e4100b3c0e30901342f80542f4044ee41903400302a41809981703140209941e1614091278143abc0c14b82114c007, 0x430c054eec00386001132c042c780b57fc022f3c0742fc0a58000620980c20a00e1d5c091fbc0814d80d312003⟩,
  ⟨1, 2, 0x455c0f26981c579811189c1f39b4068000000a0c0a34900157201b08cc1a02140b3808100b400e30f4134494054490044ee41903540302ac1808c81703180208c41e161c09127c1441e80c14bc2114c407, 0x44f0054eec00386001132c042c5c0b579c02306c07442c0a586006189c0c18a00e16900923740814e80d337403⟩,
  ⟨1, 2, 0x455c0f26941c57f41120981f385c06800000099c0a342c0153a01b0a141a02080b34e4100b3c0e30901342f80542f4044ee41903400302a41809981703140209941e1614091278143abc0c14b82114c007, 0x430c054eec00386001132c042c780b57fc022f3c0742fc0a58000620980c20a00e1d5c091fc00814d80d312003⟩,
  ⟨1, 2, 0x455c0f26941c57f41120981f385c06800000099c0a342c0153a01b0a141a02080b34e4100b3c0e30901342f80542f4044ee41903400302a41809981703140209941e1614091278143abc0c14b82114c007, 0x430c054eec00386001132c042c780b57fc022f3c0742fc0a58000620980c20a00e1d5c091fc40814d80d312003⟩,
  ⟨1, 2, 0x455c0f26941c57f41120981f385c06800000099c0a342c0153a01b0a141a02080b34e4100b3c0e30901342f80542f4044ee41903400302a41809981703140209941e1614091278143abc0c14b82114c007, 0x430c054eec00386001132c042c780b57fc022f3c0742fc0a58000620980c20a00e1d5c091fc80814d80d312003⟩,
  ⟨1, 2, 0x455c0f26941c57f41120981f385c06800000099c0a342c0153a01b0a141a02080b34e4100b3c0e30901342f80542f4044ee41903400302a41809981703140209941e1614091278143abc0c14b82114c007, 0x430c054eec00386001132c042c780b57fc022f3c0742fc0a58000620980c20a00e1d5c091fcc0814d80d312003⟩,
  ⟨1, 2, 0x455c0f26941c57f41120981f385c06800000099c0a342c0153a01b0a141a02080b34e4100b3c0e30901342f80542f4044ee41903400302a41809981703140209941e1614091278143abc0c14b82114c007, 0x430c054eec00386001132c042c780b57fc022f3c0742fc0a58000620980c20a00e1d5c091fd00814d80d312003⟩,
  ⟨1, 2, 0x455c0f26941c57f41120981f385c06800000099c0a342c0153a01b0a141a02080b34e4100b3c0e30901342f80542f4044ee41903400302a41809981703140209941e1614091278143abc0c14b82114c007, 0x430c054eec00386001132c042c780b57fc022f3c0742fc0a58000620980c20a00e1d5c091fd40814d80d312003⟩,
  ⟨1, 2, 0x455c0f26941c57f41120981f385c06800000099c0a342c0153a01b0a141a02080b34e4100b3c0e30901342f80542f4044ee41903400302a41809981703140209941e1614091278143abc0c14b82114c007, 0x430c054eec00386001132c042c780b57fc022f3c0742fc0a58000620980c20a00e1d5c091fd80814d80d312003⟩,
  ⟨1, 2, 0x455c0f26941c57f41120981f385c06800000099c0a342c0153a01b0a141a02080b34e4100b3c0e30901342f80542f4044ee41903400302a41809981703140209941e1614091278143abc0c14b82114c007, 0x430c054eec00386001132c042c780b57fc022f3c0742fc0a58000620980c20a00e1d5c091fdc0814d80d312003⟩,
  ⟨1, 2, 0x455c0f26941c57f41120981f385c06800000099c0a342c0153a01b0a141a02080b34e4100b3c0e30901342f80542f4044ee41903400302a41809981703140209941e1614091278143abc0c14b82114c007, 0x430c054eec00386001132c042c780b57fc022f3c0742fc0a58000620980c20a00e1d5c091fe00814d80d312003⟩,
  ⟨1, 2, 0x455c0f26941c57f41120981f385c06800000099c0a342c0153a01b0a141a02080b34e4100b3c0e30901342f80542f4044ee41903400302a41809981703140209941e1614091278143abc0c14b82114c007, 0x430c054eec00386001132c042c780b57fc022f3c0742fc0a58000620980c20a00e1d5c091fe40814d80d312003⟩,
  ⟨1, 2, 0x455c0f26941c57f41120981f385c06800000099c0a342c0153a01b0a141a02080b34e4100b3c0e30901342f80542f4044ee41903400302a41809981703140209941e1614091278143abc0c14b82114c007, 0x430c054eec00386001132c042c780b57fc022f3c0742fc0a58000620980c20a00e1d5c091fe80814d80d312003⟩,
  ⟨1, 2, 0x455c0f26941c57f41120981f385c06800000099c0a342c0153a01b0a141a02080b34e4100b3c0e30901342f80542f4044ee41903400302a41809981703140209941e1614091278143abc0c14b82114c007, 0x430c054eec00386001132c042c780b57fc022f3c0742fc0a58000620980c20a00e1d5c091ff00814d80d312003⟩,
  ⟨1, 2, 0x455c0f27281c57b811189c1f39b4068000000a100a34900157201b092c1a02300b3808100b580e30f4134494054490044ee41903540302b41809281703180209241e161c0912a41441e80c14d02114ec07, 0x44f0054eec00386001132c042c600b57bc02306c07442c0a58b006189c0c18a00e169009237808158c0d337403⟩,
  ⟨1, 2, 0x455c0f26941c57f41120981f385c06800000099c0a342c0153a01b0a141a02080b34e4100b3c0e30901342f80542f4044ee41903400302a41809981703140209941e1614091278143abc0c14b82114c007, 0x430c054eec00386001132c042c780b57fc022f3c0742fc0a58000620980c20a00e1d5c0920000814d80d312003⟩,
  ⟨1, 2, 0x455c0f26941c57f41120981f385c06800000099c0a342c0153a01b0a141a02080b34e4100b3c0e30901342f80542f4044ee41903400302a41809981703140209941e1614091278143abc0c14b82114c007, 0x430c054eec00386001132c042c780b57fc022f3c0742fc0a58000620980c20a00e1d5c0920040814d80d312003⟩,
  ⟨1, 2, 0x455c0f26981c579811189c1f39b4068000000a0c0a34900157201b08cc1a02140b3808100b400e30f4134494054490044ee41903540302ac1808c81703180208c41e161c09127c1441e80c14bc2114c407, 0x44f0054eec00386001132c042c5c0b579c02306c07442c0a586006189c0c18a00e169009237c0814e80d337403⟩,
  ⟨1, 2, 0x455c0f26941c20989f57f4111dc080385c06800000099c0a342c0153a01b0a141a02080b34e4100b3c0e30901342f80542f4044ee41903400302a41809981703140209941e1614091278143abc0c14b82114c007, 0x430c054eec00386001132c042c780b57fc022f3c0742fc0a58000620980c20a00e1d5c0920100814d80d312003⟩,
  ⟨1, 2, 0x455c0f26941c57f41120981f385c06800000099c0a342c0153a01b0a141a02080b34e4100b3c0e30901342f80542f4044ee41903400302a41809981703140209941e1614091278143abc0c14b82114c007, 0x430c054eec00386001132c042c780b57fc022f3c0742fc0a58000620980c20a00e1d5c09200c0814d80d312003⟩,
  ⟨1, 2, 0x455c0f18901c577411189c1f39b40680000007bc0a34900157201b08181a01680b3808100aa00e30f4134494054490044ee41903500302b81808141703180208101e16180911701441e80c122421122807, 0x44f0054eec00386001132c042c480b577802306c07442c0a557006189c0c18a00e16900925e80812840d337403⟩,
  ⟨1, 2, 0x455c0f18901c577411189c1f39b40680000007bc0a34900157201b08181a01680b3808100aa00e30f4134494054490044ee41903500302b81808141703180208101e16180911701441e80c122421122807, 0x44f0054eec00386001132c042c480b577802306c07442c0a557006189c0c18a00e169009256c0812840d337403⟩,
  ⟨1, 2, 0x455c0f18901c577411189c1f39b40680000007bc0a34900157201b08181a01680b3808100aa00e30f4134494054490044ee41903500302b81808141703180208101e16180911701441e80c122421122807, 0x44f0054eec00386001132c042c480b577802306c07442c0a557006189c0c18a00e16900925700812840d337403⟩,
  ⟨1, 2, 0x455c0f18901c577411189c1f39b40680000007bc0a34900157201b08181a01680b3808100aa00e30f4134494054490044ee41903500302b81808141703180208101e16180911701441e80c122421122807, 0x44f0054eec00386001132c042c480b577802306c07442c0a557006189c0c18a00e16900925740812840d337403⟩,
  ⟨1, 2, 0x455c0f18901c577411189c1f39b40680000007bc0a34900157201b08181a01680b3808100aa00e30f4134494054490044ee41903500302b81808141703180208101e16180911701441e80c122421122807, 0x44f0054eec00386001132c042c480b577802306c07442c0a557006189c0c18a00e169009257c0812840d337403⟩,
  ⟨1, 2, 0x455c0f18901c577411189c1f39b40680000007bc0a34900157201b08181a01680b3808100aa00e30f4134494054490044ee41903500302b81808141703180208101e16180911701441e80c122421122807, 0x44f0054eec00386001132c042c480b577802306c07442c0a557006189c0c18a00e16900925800812840d337403⟩,
  ⟨1, 2, 0x455c0f18901c577411189c1f39b40680000007bc0a34900157201b08181a01680b3808100aa00e30f4134494054490044ee41903500302b81808141703180208101e16180911701441e80c122421122807, 0x44f0054eec00386001132c042c480b577802306c07442c0a557006189c0c18a00e16900925840812840d337403⟩,
  ⟨1, 2, 0x455c0f18901c577411189c1f39b40680000007bc0a34900157201b08181a01680b3808100aa00e30f4134494054490044ee41903500302b81808141703180208101e16180911701441e80c122421122807, 0x44f0054eec00386001132c042c480b577802306c07442c0a557006189c0c18a00e16900925880812840d337403⟩,
  ⟨1, 2, 0x455c0f18901c577411189c1f39b40680000007bc0a34900157201b08181a01680b3808100aa00e30f4134494054490044ee41903500302b81808141703180208101e16180911701441e80c122421122807, 0x44f0054eec00386001132c042c480b577802306c07442c0a557006189c0c18a00e169009258c0812840d337403⟩,
  ⟨1, 2, 0x455c0f18901c577411189c1f39b40680000007bc0a34900157201b08181a01680b3808100aa00e30f4134494054490044ee41903500302b81808141703180208101e16180911701441e80c122421122807, 0x44f0054eec00386001132c042c480b577802306c07442c0a557006189c0c18a00e16900925900812840d337403⟩,
  ⟨1, 2, 0x455c0f18901c577411189c1f39b40680000007bc0a34900157201b08181a01680b3808100aa00e30f4134494054490044ee41903500302b81808141703180208101e16180911701441e80c122421122807, 0x44f0054eec00386001132c042c480b577802306c07442c0a557006189c0c18a00e16900925940812840d337403⟩,
  ⟨1, 2, 0x455c0f18901c577411189c1f39b40680000007bc0a34900157201b08181a01680b3808100aa00e30f4134494054490044ee41903500302b81808141703180208101e16180911701441e80c122421122807, 0x44f0054eec00386001132c042c480b577802306c07442c0a557006189c0c18a00e16900925980812840d337403⟩,
  ⟨1, 2, 0x455c0f18901c577411189c1f39b40680000007bc0a34900157201b08181a01680b3808100aa00e30f4134494054490044ee41903500302b81808141703180208101e16180911701441e80c122421122807, 0x44f0054eec00386001132c042c480b577802306c07442c0a557006189c0c18a00e169009259c0812840d337403⟩,
  ⟨1, 2, 0x455c0f18901c577411189c1f39b40680000007bc0a34900157201b08181a01680b3808100aa00e30f4134494054490044ee41903500302b81808141703180208101e16180911701441e80c122421122807, 0x44f0054eec00386001132c042c480b577802306c07442c0a557006189c0c18a00e16900925a00812840d337403⟩,
  ⟨1, 2, 0x455c0f18901c577411189c1f39b40680000007bc0a34900157201b08181a01680b3808100aa00e30f4134494054490044ee41903500302b81808141703180208101e16180911701441e80c122421122807, 0x44f0054eec00386001132c042c480b577802306c07442c0a557006189c0c18a00e16900925a40812840d337403⟩,
  ⟨1, 2, 0x455c0f18901c577411189c1f39b40680000007bc0a34900157201b08181a01680b3808100aa00e30f4134494054490044ee41903500302b81808141703180208101e16180911701441e80c122421122807, 0x44f0054eec00386001132c042c480b577802306c07442c0a557006189c0c18a00e16900925a80812840d337403⟩,
  ⟨1, 2, 0x455c0f18901c577411189c1f39b40680000007bc0a34900157201b08181a01680b3808100aa00e30f4134494054490044ee41903500302b81808141703180208101e16180911701441e80c122421122807, 0x44f0054eec00386001132c042c480b577802306c07442c0a557006189c0c18a00e16900925b00812840d337403⟩]

end JsxDetect.Automaton
