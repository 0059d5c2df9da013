import JsxDetect.Automaton.Packed

/-!
# Parsing automaton: states 2560 to 3071

Packed rows; see `PackedRow` for the layout.
-/

namespace JsxDetect.Automaton

/-- States 2560 to 2623. -/
def states2560 : List PackedRow := [
  ⟨8, 2, 0x800000800c6c818c6780847c, 0x0⟩,
  ⟨1, 2, 0x299c9e29982224dc491bf44b24d8431ddc261dd8592cc02980000022740e44280544240407a4032a24202f4d94, 0x2918222cc011⟩,
  ⟨8, 2, 0x28384339102980000044d40544d004069803800c7a29a420388879, 0x391011⟩,
  ⟨8, 2, 0x28384339102980000028100e44d40544d004069803800c7a29a420388878, 0x391011⟩,
  ⟨8, 2, 0x28484339342980000044d40544d004069803800c7a29e020388879, 0x393411⟩,
  ⟨8, 2, 0x38b02980000044d40544d004069803800c7a388847, 0x38b011⟩,
  ⟨8, 2, 0x38e82980000044d40544d004069803800c7a388847, 0x38e811⟩,
  ⟨8, 2, 0x38f42980000044d40544d004069803800c7a388847, 0x38f411⟩,
  ⟨1, 2, 0x29809e297c2224dc4926282626245931ac2980000044280544240407a4032f4d25, 0x297c2231ac11⟩,
  ⟨8, 2, 0x39102980000044d40544d004069803800c7a388847, 0x391011⟩,
  ⟨8, 2, 0x391c2980000044d40544d004069803800c7a388847, 0x391c11⟩,
  ⟨8, 2, 0x39202980000044d40544d004069803800c7a388847, 0x392011⟩,
  ⟨1, 2, 0x29c49e29c02224dc4926442626405931d82980000044280544240407a4032f4d25, 0x29c82231d811⟩,
  ⟨8, 2, 0x39282980000044d40544d004069803800c7a388847, 0x392811⟩,
  ⟨8, 2, 0x39342980000044d40544d004069803800c7a388847, 0x393411⟩,
  ⟨8, 2, 0x39402980000044d40544d004069803800c7a388847, 0x394011⟩,
  ⟨8, 2, 0x39442980000044d40544d004069803800c7a388847, 0x394411⟩,
  ⟨8, 2, 0x39482980000044d40544d004069803800c7a388847, 0x394811⟩,
  ⟨8, 2, 0x394c2980000044d40544d004069803800c7a388847, 0x394c11⟩,
  ⟨8, 2, 0x39582980000044d40544d004069803800c7a388847, 0x395811⟩,
  ⟨8, 2, 0x395c2980000044d40544d004069803800c7a388847, 0x395c11⟩,
  ⟨8, 2, 0x39682980000044d40544d004069803800c7a388847, 0x396811⟩,
  ⟨8, 2, 0x396c2980000044d40544d004069803800c7a388847, 0x396c11⟩,
  ⟨8, 2, 0x39782980000044d40544d004069803800c7a388847, 0x397811⟩,
  ⟨1, 2, 0x88680f80000083458a, 0x286005293404⟩,
  ⟨8, 2, 0x39d42980000044d40544d004069803800c7a388847, 0x39d411⟩,
  ⟨8, 2, 0x39f02980000044d40544d004069803800c7a388847, 0x39f011⟩,
  ⟨8, 2, 0x3a002980000044d40544d004069803800c7a388847, 0x3a0011⟩,
  ⟨8, 2, 0x3a042980000044d40544d004069803800c7a388847, 0x3a0411⟩,
  ⟨8, 2, 0x3a082980000044d40544d004069803800c7a388847, 0x3a0811⟩,
  ⟨8, 2, 0x3a702980000044d40544d004069803800c7a388847, 0x3a7011⟩,
  ⟨8, 2, 0x3a842980000044d40544d004069803800c7a388847, 0x3a8411⟩,
  ⟨8, 2, 0x3a882980000044d40544d004069803800c7a388847, 0x3a8811⟩,
  ⟨8, 2, 0x3a8c2980000044d40544d004069803800c7a388847, 0x3a8c11⟩,
  ⟨8, 2, 0x3a902980000044d40544d004069803800c7a388847, 0x3a9011⟩,
  ⟨1, 2, 0x53b05253ac544f20bb53a822350053288c4b455c0f8000004ef01053c80e53c41334282834dc5134d450386814540c0c54084c, 0x3ab4050bf425132c040bec240c083b⟩,
  ⟨1, 2, 0x28e84928144327ec2627bc59388c2980000027e80e44d40544d004069803294820388947, 0x28ec22388c11⟩,
  ⟨1, 2, 0x53b05253ac5453a822386c53288c4b455c0f8000004ef01053c80e53c41334282834dc5134d450386814540c0c54084c02c09d, 0x3ab4050bf425132c040bec240c643b⟩,
  ⟨1, 2, 0x24dc4924c44324c0262c9c2980000044280544240407a4032964202f4d95, 0x28fc222c9c11⟩,
  ⟨1, 2, 0x3b842980000044b40544b0040698030cc834388847, 0x46905d3b8411⟩,
  ⟨1, 2, 0x24dc4924f44324d4262cb42980000044280544240407a4032984202f4d95, 0x2910222cb411⟩,
  ⟨1, 2, 0x24dc4924f84321f4261de0592d482980000021f00e44280544240407a40329a0202f4d47, 0x291c222d4811⟩,
  ⟨1, 2, 0x24dc4925b443220c261df0592d542980000023800e44280544240407a4032a0c202f4d47, 0x2920222d5411⟩,
  ⟨1, 2, 0x43fc2980000044b40544b0040698030d6c34388847, 0x51205d43fc11⟩,
  ⟨1, 2, 0x43fc2980000044b40544b0040698030d7434388847, 0x51205d43fc11⟩,
  ⟨1, 2, 0x43fc2980000044b40544b0040698030da434388847, 0x51205d43fc11⟩,
  ⟨1, 2, 0x43fc2980000044b40544b0040698030da834388847, 0x51205d43fc11⟩,
  ⟨1, 2, 0x5728525724545184bb57f82237c45328bc4b455c0f80000053681058c00e572c1334c02838045138005039b81458c40c58184c, 0x42d805403025132c0440282440343b⟩,
  ⟨1, 2, 0x53b05253ac5453a8223a985328dc4b455c0f8000004ef01053c80e53c41334282834dc5134d4503a9414540c0c54084c02c89d, 0x3ab4050bf425132c040bec240c643b⟩,
  ⟨1, 2, 0x42142980000044b40544b00406980340b434388847, 0x4db85d421411⟩,
  ⟨1, 2, 0x43fc2980000044b40544b004069803413434388847, 0x51205d43fc11⟩,
  ⟨1, 2, 0x43fc2980000044b40544b004069803413c34388847, 0x51205d43fc11⟩,
  ⟨1, 2, 0x43fc2980000044b40544b004069803415c34388847, 0x51205d43fc11⟩,
  ⟨1, 2, 0x43fc2980000044b40544b004069803416034388847, 0x51205d43fc11⟩,
  ⟨1, 2, 0x57285257245457f82239bc5328bc4b455c0f80000053681058c00e572c1334c02838045138005039b81458c40c58184c02d09d, 0x42d805403025132c0440282440743b⟩,
  ⟨1, 2, 0x53b05253ac544f20bb53a82238405328dc4b455c0f8000004ef01053c80e53c41334282834dc5134d4503a9414540c0c54084c, 0x3ab4050bf425132c040bec240c083b⟩,
  ⟨1, 2, 0x53b05253ac5453a822386c53288c4b455c0f8000004ef01053c80e53c41334282834dc5134d450386814540c0c54084c02d89d, 0x3ab4050bf425132c040bec240c643b⟩,
  ⟨1, 2, 0x28144327ec26388c2980000027e80e44d40544d0040698032948203888aa, 0x388c11⟩,
  ⟨8, 2, 0x800000800c7a80847c, 0x0⟩,
  ⟨1, 2, 0x28184327f82638b02980000027f40e44d40544d0040698032954203888aa, 0x38b011⟩,
  ⟨1, 2, 0x24e8432168262c982980000021640e44280544240407a4032958202f4caa, 0x2c9811⟩,
  ⟨1, 2, 0x282443280c2638e82980000028080e44d40544d0040698032974203888aa, 0x38e811⟩,
  ⟨1, 2, 0x24f04321e4262cb02980000021e00e44280544240407a4032978202f4caa, 0x2cb011⟩,
  ⟨1, 2, 0x282c4338f82980000044d40544d004069803298420388879, 0x38f811⟩]

/-- States 2624 to 2687. -/
def states2624 : List PackedRow := [
  ⟨1, 2, 0x24d84321ec262cc42980000022740e44280544240407a4032a24202f4caa, 0x2cc411⟩,
  ⟨1, 2, 0x24f84321f4262d482980000021f00e44280544240407a40329a0202f4caa, 0x2d4811⟩,
  ⟨1, 2, 0x25b443220c262d542980000023800e44280544240407a4032a0c202f4caa, 0x2d5411⟩,
  ⟨1, 2, 0x2500432230262cc829800000222c0e44280544240407a40329a8202f4caa, 0x2cc811⟩,
  ⟨1, 2, 0x28404339202980000044d40544d00406980329b420388879, 0x392011⟩,
  ⟨1, 2, 0x24e4432234262cd02980000022840e44280544240407a4032a28202f4caa, 0x2cd011⟩,
  ⟨1, 2, 0x24e443223c262cdc2980000022840e44280544240407a4032a28202f4caa, 0x2cdc11⟩,
  ⟨1, 2, 0x2504432244262d602980000022400e44280544240407a40329dc202f4caa, 0x2d6011⟩,
  ⟨1, 2, 0x25cc432248262d6c2980000023840e44280544240407a4032a10202f4caa, 0x2d6c11⟩,
  ⟨1, 2, 0x24ec432258262cf02980000022980e44280544240407a4032a2c202f4caa, 0x2cf011⟩,
  ⟨1, 2, 0x250c432260262d7029800000225c0e44280544240407a40329f8202f4caa, 0x2d7011⟩,
  ⟨1, 2, 0x25d4432264262d742980000023880e44280544240407a4032a14202f4caa, 0x2d7411⟩,
  ⟨1, 2, 0x43fc2980000044b40544b004069803388847, 0x51205d43fc11⟩,
  ⟨1, 2, 0x80000084d90f, 0x0⟩,
  ⟨1, 2, 0x80000082d90f, 0x0⟩,
  ⟨1, 2, 0x80000084dd0f, 0x0⟩,
  ⟨1, 2, 0x80000084e10f, 0x0⟩,
  ⟨1, 2, 0x388c2980000044d40544d004069803388847, 0x388c11⟩,
  ⟨1, 2, 0x38b02980000044d40544d004069803388847, 0x38b011⟩,
  ⟨1, 2, 0x38cc2980000044d40544d004069803388847, 0x38cc11⟩,
  ⟨1, 2, 0x31882980000044280544240407a4032f4c47, 0x318811⟩,
  ⟨1, 2, 0x38e82980000044d40544d004069803388847, 0x38e811⟩,
  ⟨1, 2, 0x38f42980000044d40544d004069803388847, 0x38f411⟩,
  ⟨1, 2, 0x31ac2980000044280544240407a4032f4c47, 0x31ac11⟩,
  ⟨1, 2, 0x24d42631ac2980000044280544240407a4032f4cb4, 0x31ac11⟩,
  ⟨1, 2, 0x38f82980000044d40544d004069803388847, 0x38f811⟩,
  ⟨1, 2, 0x26b42631b42980000044280544240407a4032f4cb4, 0x31b411⟩,
  ⟨1, 2, 0x31b82980000044280544240407a4032f4c47, 0x31b811⟩,
  ⟨1, 2, 0x39002980000044d40544d004069803388847, 0x390011⟩,
  ⟨1, 2, 0x39102980000044d40544d004069803388847, 0x391011⟩,
  ⟨1, 2, 0x391c2980000044d40544d004069803388847, 0x391c11⟩,
  ⟨1, 2, 0x26b82631c02980000044280544240407a4032f4cb4, 0x31c011⟩,
  ⟨1, 2, 0x31c02980000044280544240407a4032f4c47, 0x31c011⟩,
  ⟨1, 2, 0x39202980000044d40544d004069803388847, 0x392011⟩,
  ⟨1, 2, 0x31c42980000044280544240407a4032f4c47, 0x31c411⟩,
  ⟨1, 2, 0x26c02631d02980000044280544240407a4032f4cb4, 0x31d011⟩,
  ⟨1, 2, 0x31d42980000044280544240407a4032f4c47, 0x31d411⟩,
  ⟨1, 2, 0x26c42631dc2980000044280544240407a4032f4cb4, 0x31dc11⟩,
  ⟨1, 2, 0x26c82631e82980000044280544240407a4032f4cb4, 0x31e811⟩,
  ⟨1, 2, 0x31ec2980000044280544240407a4032f4c47, 0x31ec11⟩,
  ⟨1, 2, 0x39282980000044d40544d004069803388847, 0x392811⟩,
  ⟨1, 2, 0x39342980000044d40544d004069803388847, 0x393411⟩,
  ⟨1, 2, 0x39402980000044d40544d004069803388847, 0x394011⟩,
  ⟨1, 2, 0x26cc2631f02980000044280544240407a4032f4cb4, 0x31f011⟩,
  ⟨1, 2, 0x31f02980000044280544240407a4032f4c47, 0x31f011⟩,
  ⟨1, 2, 0x39442980000044d40544d004069803388847, 0x394411⟩,
  ⟨1, 2, 0x26d02631f82980000044280544240407a4032f4cb4, 0x31f811⟩,
  ⟨1, 2, 0x31fc2980000044280544240407a4032f4c47, 0x31fc11⟩,
  ⟨1, 2, 0x26d826320c2980000044280544240407a4032f4cb4, 0x320c11⟩,
  ⟨1, 2, 0x32102980000044280544240407a4032f4c47, 0x321011⟩,
  ⟨1, 2, 0x26dc2632142980000044280544240407a4032f4cb4, 0x321411⟩,
  ⟨1, 2, 0x321c2980000044280544240407a4032f4c47, 0x321c11⟩,
  ⟨1, 2, 0x26e42632282980000044280544240407a4032f4cb4, 0x322811⟩,
  ⟨1, 2, 0x322c2980000044280544240407a4032f4c47, 0x322c11⟩,
  ⟨1, 2, 0x26e82632302980000044280544240407a4032f4cb4, 0x323011⟩,
  ⟨1, 2, 0x39482980000044d40544d004069803388847, 0x394811⟩,
  ⟨1, 2, 0x394c2980000044d40544d004069803388847, 0x394c11⟩,
  ⟨1, 2, 0x39582980000044d40544d004069803388847, 0x395811⟩,
  ⟨1, 2, 0x26ec2632442980000044280544240407a4032f4cb4, 0x324411⟩,
  ⟨1, 2, 0x32482980000044280544240407a4032f4c47, 0x324811⟩,
  ⟨1, 2, 0x26f02632582980000044280544240407a4032f4cb4, 0x325811⟩,
  ⟨1, 2, 0x325c2980000044280544240407a4032f4c47, 0x325c11⟩,
  ⟨1, 2, 0x395c2980000044d40544d004069803388847, 0x395c11⟩,
  ⟨1, 2, 0x39682980000044d40544d004069803388847, 0x396811⟩]

/-- States 2688 to 2751. -/
def states2688 : List PackedRow := [
  ⟨1, 2, 0x396c2980000044d40544d004069803388847, 0x396c11⟩,
  ⟨1, 2, 0x39782980000044d40544d004069803388847, 0x397811⟩,
  ⟨1, 2, 0x39cc2980000044d40544d004069803388847, 0x39cc11⟩,
  ⟨1, 2, 0x39d42980000044d40544d004069803388847, 0x39d411⟩,
  ⟨1, 2, 0x39f02980000044d40544d004069803388847, 0x39f011⟩,
  ⟨1, 2, 0x3a002980000044d40544d004069803388847, 0x3a0011⟩,
  ⟨1, 2, 0x3a042980000044d40544d004069803388847, 0x3a0411⟩,
  ⟨1, 2, 0x3a082980000044d40544d004069803388847, 0x3a0811⟩,
  ⟨1, 2, 0x3a682980000044d40544d004069803388847, 0x3a6811⟩,
  ⟨1, 2, 0x3a702980000044d40544d004069803388847, 0x3a7011⟩,
  ⟨1, 2, 0x3a842980000044d40544d004069803388847, 0x3a8411⟩,
  ⟨1, 2, 0x3a882980000044d40544d004069803388847, 0x3a8811⟩,
  ⟨1, 2, 0x3a8c2980000044d40544d004069803388847, 0x3a8c11⟩,
  ⟨1, 2, 0x3a902980000044d40544d004069803388847, 0x3a9011⟩,
  ⟨1, 2, 0x80000055247f511007, 0x552873⟩,
  ⟨14, 2, 0x80000010f40146d827509c1d042002803548, 0x2b780f2ac829⟩,
  ⟨14, 2, 0x80000010f40146dc2750a01d042002803548, 0x2b7c0f2acc29⟩,
  ⟨14, 2, 0x80000010f40146e02750a41d042002803548, 0x2b800f2ad029⟩,
  ⟨14, 2, 0x800000802c93, 0x0⟩,
  ⟨14, 2, 0x800000802c93, 0x0⟩,
  ⟨14, 2, 0x800000802c93, 0x0⟩,
  ⟨14, 2, 0x800000802c93, 0x0⟩,
  ⟨14, 2, 0x800000802c93, 0x0⟩,
  ⟨14, 2, 0x800000802c93, 0x0⟩,
  ⟨14, 2, 0x800000802c93, 0x0⟩,
  ⟨14, 2, 0x800000802c93, 0x0⟩,
  ⟨14, 2, 0x800000802c93, 0x0⟩,
  ⟨14, 2, 0x800000802c93, 0x0⟩,
  ⟨14, 2, 0x800000802c93, 0x0⟩,
  ⟨14, 2, 0x800000802c93, 0x0⟩,
  ⟨14, 2, 0x800000802c93, 0x0⟩,
  ⟨14, 2, 0x800000802c93, 0x0⟩,
  ⟨14, 2, 0x800000806c93, 0x0⟩,
  ⟨14, 2, 0x800000806c93, 0x0⟩,
  ⟨14, 2, 0x800000806c93, 0x0⟩,
  ⟨14, 2, 0x800000806c93, 0x0⟩,
  ⟨14, 2, 0x800000806c93, 0x0⟩,
  ⟨14, 2, 0x800000806c93, 0x0⟩,
  ⟨14, 2, 0x800000806c93, 0x0⟩,
  ⟨14, 2, 0x800000806c93, 0x0⟩,
  ⟨14, 2, 0x800000806c93, 0x0⟩,
  ⟨14, 2, 0x800000806c93, 0x0⟩,
  ⟨14, 2, 0x80000044280544240453d01d827d102e48352f40092c844c53cc20457007, 0x43087f4efc5743041453d4744ef87e⟩,
  ⟨15, 2, 0xf083c8000000edc0121087455941d8538550e882484142a0468090f0408353875, 0x3144394370754f8c6931480f38a4343b1038⟩,
  ⟨11, 2, 0x80000010f40154d01d80247d, 0x2b640f⟩,
  ⟨15, 2, 0xf083c8000000edc0118e87455941d8538550e882484142a0468090f0408353875, 0x3388394370754f8c69338c0f38a4343b1038⟩,
  ⟨11, 2, 0x80000010f40180247d, 0x2b700f⟩,
  ⟨11, 2, 0xf248280000010f40154d01d802511, 0x2b640f⟩,
  ⟨9, 2, 0x80000046d827509c1d80347d, 0x0⟩,
  ⟨9, 2, 0x80000046e42750a81d80347d, 0x0⟩,
  ⟨9, 2, 0x800000809549, 0x0⟩,
  ⟨9, 2, 0x800000809549, 0x0⟩,
  ⟨9, 2, 0x800000809549, 0x0⟩,
  ⟨11, 2, 0x80000080981d810d96, 0x0⟩,
  ⟨1, 2, 0x8000008040f9, 0x0⟩,
  ⟨1, 2, 0x8000008040f9, 0x0⟩,
  ⟨11, 2, 0x80000080981d810d96, 0x0⟩,
  ⟨1, 2, 0x8000008040f9, 0x0⟩,
  ⟨1, 2, 0x8000008040f9, 0x0⟩,
  ⟨1, 2, 0x8000008040f9, 0x0⟩,
  ⟨1, 2, 0x8000008040f9, 0x0⟩,
  ⟨11, 5, 0x800000820197, 0x0⟩,
  ⟨11, 5, 0x800000820597, 0x0⟩,
  ⟨14, 5, 0x80000010fc014e0c2752a81d04240280346f, 0x2fb00f2d9c29⟩]

/-- States 2752 to 2815. -/
def states2752 : List PackedRow := [
  ⟨14, 5, 0x80000010fc014e102752ac1d04240280346f, 0x2fb40f2da029⟩,
  ⟨14, 5, 0x80000010fc014e142752b01d04240280346f, 0x2fb80f2da429⟩,
  ⟨1, 2, 0x800000821929, 0x0⟩,
  ⟨1, 2, 0x80000080f129, 0x0⟩,
  ⟨1, 2, 0x80000080f129, 0x0⟩,
  ⟨1, 2, 0x800000821d29, 0x0⟩,
  ⟨1, 2, 0x800000806198, 0x0⟩,
  ⟨1, 2, 0x80000050101d042002805111, 0x2b2c29⟩,
  ⟨1, 2, 0x80000050141d80507d, 0x0⟩,
  ⟨1, 2, 0x80000082e198, 0x0⟩,
  ⟨1, 2, 0x80000080d599, 0x0⟩,
  ⟨1, 2, 0x80000080d599, 0x0⟩,
  ⟨2, 2, 0x80000006902b, 0x0⟩,
  ⟨1, 2, 0x80000082e47d, 0x0⟩,
  ⟨1, 2, 0x80000080247d, 0x0⟩,
  ⟨1, 2, 0x80000080587d, 0x0⟩,
  ⟨1, 2, 0x80000080247d, 0x0⟩,
  ⟨1, 2, 0x80000080507d, 0x0⟩,
  ⟨1, 2, 0x8000000e8c0380519a, 0x0⟩,
  ⟨1, 2, 0x80000080587d, 0x0⟩,
  ⟨1, 2, 0x80000080347d, 0x0⟩,
  ⟨1, 2, 0x80000080e47d, 0x0⟩,
  ⟨1, 2, 0x80000082e87d, 0x0⟩,
  ⟨1, 2, 0x800000814c7d, 0x0⟩,
  ⟨1, 2, 0x80000080f87d, 0x0⟩,
  ⟨1, 2, 0x80000081087d, 0x0⟩,
  ⟨1, 2, 0x8000008050b70e8c0382ee95, 0x0⟩,
  ⟨1, 2, 0x8000000e8c0382f19a, 0x0⟩,
  ⟨1, 2, 0x80000081087d, 0x0⟩,
  ⟨1, 2, 0x80000081047d, 0x0⟩,
  ⟨1, 2, 0x80000080b07d, 0x0⟩,
  ⟨1, 2, 0x80000080b07d, 0x0⟩,
  ⟨1, 2, 0x80000080b07d, 0x0⟩,
  ⟨1, 2, 0x80000082f47d, 0x0⟩,
  ⟨1, 2, 0x80000081507d, 0x0⟩,
  ⟨1, 2, 0x80000081507d, 0x0⟩,
  ⟨1, 2, 0x80000082f87d, 0x0⟩,
  ⟨1, 2, 0x80000081107d, 0x0⟩,
  ⟨1, 2, 0x80000082fc7d, 0x0⟩,
  ⟨1, 2, 0x80000083007d, 0x0⟩,
  ⟨1, 2, 0x5468325540808000002b183a44b40544b004, 0x554080⟩,
  ⟨1, 2, 0x5468325544808000002b183a44b40544b004, 0x554c3c554814⟩,
  ⟨1, 2, 0x5468325550808000002b183a44b40544b004, 0x55583c555414⟩,
  ⟨1, 2, 0x546832555c808000002b183a44b40544b004, 0x55643c556014⟩,
  ⟨1, 2, 0x80000081547d, 0x0⟩,
  ⟨1, 2, 0x80000081547d, 0x0⟩,
  ⟨1, 2, 0x80000083047d, 0x0⟩,
  ⟨1, 2, 0x80000083087d, 0x0⟩,
  ⟨1, 2, 0x80000081147d, 0x0⟩,
  ⟨1, 2, 0x800000830c7d, 0x0⟩,
  ⟨1, 2, 0x80000081587d, 0x0⟩,
  ⟨1, 2, 0x80000081587d, 0x0⟩,
  ⟨1, 2, 0x80000083107d, 0x0⟩,
  ⟨14, 5, 0x800000802c94, 0x0⟩,
  ⟨14, 5, 0x800000802c94, 0x0⟩,
  ⟨14, 5, 0x800000802c94, 0x0⟩,
  ⟨14, 5, 0x800000802c94, 0x0⟩,
  ⟨14, 5, 0x800000802c94, 0x0⟩,
  ⟨14, 5, 0x800000802c94, 0x0⟩,
  ⟨14, 5, 0x800000802c94, 0x0⟩,
  ⟨14, 5, 0x800000802c94, 0x0⟩,
  ⟨14, 5, 0x800000802c94, 0x0⟩,
  ⟨14, 5, 0x800000802c94, 0x0⟩,
  ⟨14, 5, 0x800000802c94, 0x0⟩]

/-- States 2816 to 2879. -/
def states2816 : List PackedRow := [
  ⟨14, 5, 0x800000802c94, 0x0⟩,
  ⟨14, 5, 0x800000802c94, 0x0⟩,
  ⟨14, 5, 0x800000802c94, 0x0⟩,
  ⟨14, 5, 0x800000806c94, 0x0⟩,
  ⟨14, 5, 0x800000806c94, 0x0⟩,
  ⟨14, 5, 0x800000806c94, 0x0⟩,
  ⟨14, 5, 0x800000806c94, 0x0⟩,
  ⟨14, 5, 0x800000806c94, 0x0⟩,
  ⟨14, 5, 0x800000806c94, 0x0⟩,
  ⟨14, 5, 0x800000806c94, 0x0⟩,
  ⟨14, 5, 0x800000806c94, 0x0⟩,
  ⟨14, 5, 0x800000806c94, 0x0⟩,
  ⟨14, 5, 0x800000806c94, 0x0⟩,
  ⟨11, 5, 0x10a08280000010fc0156181d80246f, 0x2f940f⟩,
  ⟨14, 6, 0x8000001108014e602752f81d042c0280346d, 0x32e80f303c29⟩,
  ⟨14, 6, 0x8000001108014e642752fc1d042c0280346d, 0x32ec0f304029⟩,
  ⟨14, 6, 0x8000001108014e682753001d042c0280346d, 0x32f00f304429⟩,
  ⟨2, 2, 0x800000071c2b, 0x0⟩,
  ⟨2, 2, 0x80000007fc2b, 0x0⟩,
  ⟨1, 2, 0x5468325634808000002b183a44b40544b004, 0x563480⟩,
  ⟨1, 2, 0x5468325638808000002b183a44b40544b004, 0x56403c563c14⟩,
  ⟨1, 2, 0x5468325644808000002b183a44b40544b004, 0x564c3c564814⟩,
  ⟨1, 2, 0x5468325650808000002b183a44b40544b004, 0x56583c565414⟩,
  ⟨2, 2, 0x80000008b02b, 0x0⟩,
  ⟨2, 2, 0x80000009102b, 0x0⟩,
  ⟨1, 2, 0x54683256e8808000002b183a44b40544b004, 0x56e880⟩,
  ⟨1, 2, 0x54683256ec808000002b183a44b40544b004, 0x56f43c56f014⟩,
  ⟨1, 2, 0x54683256f8808000002b183a44b40544b004, 0x57003c56fc14⟩,
  ⟨1, 2, 0x5468325704808000002b183a44b40544b004, 0x570c3c570814⟩,
  ⟨2, 2, 0x80000009702b, 0x0⟩,
  ⟨2, 2, 0x80000007a02b, 0x0⟩,
  ⟨2, 2, 0x80000009e02b, 0x0⟩,
  ⟨2, 2, 0x800000085c2b, 0x0⟩,
  ⟨1, 2, 0x80000044280544240482414a2f400945c04c53cc2045c407, 0x43387f4efc5743341453d4744f3c7e⟩,
  ⟨8, 5, 0x2e5423800000459c010eec2403280235542d886c0d06a808, 0x5178003b581c32700146781038d002⟩,
  ⟨1, 2, 0xf2482800000802511, 0x0⟩,
  ⟨1, 2, 0x5468328000002b183a2cace7, 0x54e43c2b745f⟩,
  ⟨1, 2, 0xf2882800000802511, 0x0⟩,
  ⟨8, 5, 0x2e5c23800000459c010eec24032802357c2d81dc0d06a808, 0x5178003bc81c32700146c01038f002⟩,
  ⟨8, 5, 0x2e6023800000459c010eec24032c02357c2d81dc0d06a808, 0x527c003bc81c30d80146c01046c402⟩,
  ⟨8, 5, 0x2e6423800000459c010eec24031c0235802d81dc0d06a808, 0x4eec003bd01c38600146d010519802⟩,
  ⟨15, 2, 0x80000010f40154d01d887055802697853e96, 0x2b640f⟩,
  ⟨8, 5, 0x800000459c01800cfa032c02816c34803c2a06c008, 0x45d82145d41f509800358401⟩,
  ⟨1, 2, 0xf2482800000810511, 0x0⟩,
  ⟨8, 5, 0x2e7423800000459c010eec2403280235942d808c0d06a808, 0x5178003c141c32700146fc10391802⟩,
  ⟨8, 5, 0x2e7823800000459c010eec24032c0235942d808c0d06a808, 0x527c003c141c30d80146fc10470802⟩,
  ⟨8, 5, 0x2e7c23800000459c010eec24031c0235982d808c0d06a808, 0x4eec003c201c38600147141051d002⟩,
  ⟨8, 5, 0x2e8023800000459c010eec24031c02359c2d808c0d06a808, 0x4eec003c241c38600147181051d002⟩,
  ⟨8, 5, 0x2e8423800000459c010eec24031c0235b82d808c0d06a808, 0x4eec003c3c1c38600147341051d002⟩,
  ⟨8, 5, 0x2e8823800000459c010eec24031c0235bc2d808c0d06a808, 0x4eec003c401c38600147381051d002⟩,
  ⟨8, 5, 0x2e9423800000459c010eec2403280235cc2d80280d06a808, 0x5178003c781c327001475c10393c02⟩,
  ⟨8, 5, 0x2e9823800000459c010eec24031c0235d02d80280d06a808, 0x4eec003c841c386001476810521402⟩,
  ⟨8, 5, 0x2e9c23800000459c010eec24031c0235d42d80280d06a808, 0x4eec003c901c386001477810521402⟩,
  ⟨8, 5, 0x2ea023800000459c010eec24031c0236182d80280d06a808, 0x4eec003cd41c38600147d410521402⟩,
  ⟨8, 5, 0x2ea423800000459c010eec24031c02361c2d80280d06a808, 0x4eec003cd81c38600147d810521402⟩,
  ⟨8, 5, 0x2ea823800000459c010eec24031c0236382d80280d06a808, 0x4eec003cf01c38600147f410521402⟩,
  ⟨8, 5, 0x2eac23800000459c010eec24031c02363c2d80280d06a808, 0x4eec003cf41c38600147f810521402⟩,
  ⟨8, 5, 0x2eb823800000459c010eec2403280236442d80180d06a808, 0x5178003d501c327001481410395402⟩,
  ⟨8, 5, 0x2ebc23800000459c010eec24031c0236482d80180d06a808, 0x4eec003d601c386001483410525002⟩,
  ⟨8, 5, 0x2ec023800000459c010eec24031c02369c2d80180d06a808, 0x4eec003dd41c38600148ec10525002⟩,
  ⟨8, 5, 0x2ec423800000459c010eec24031c0236a02d80180d06a808, 0x4eec003de01c38600148fc10525002⟩,
  ⟨8, 5, 0x2ec823800000459c010eec24031c0236dc2d80180d06a808, 0x4eec003e201c386001495410525002⟩,
  ⟨8, 5, 0x2ed423800000459c010eec24031c0237142d80100d06a808, 0x4eec003ef41c3860014a8c10526402⟩,
  ⟨8, 5, 0x800000459c01800cfa032c02817034803c2a06c008, 0x45d8214d701f509800358401⟩]

/-- States 2880 to 2943. -/
def states2880 : List PackedRow := [
  ⟨11, 5, 0x80000010fc0156181d80246f, 0x2f940f⟩,
  ⟨1, 5, 0x80000052941d04240280506f, 0x2ef029⟩,
  ⟨8, 5, 0x800000459c01800cfa032c02817434803c2a06c008, 0x45d8214d701f509800358401⟩,
  ⟨1, 2, 0x5468328000002b183a30d4e7, 0x55d83c327c5f⟩,
  ⟨1, 2, 0x39b406800000041c0280b15e, 0x18f813⟩,
  ⟨8, 5, 0x800000459c01800cfa032c02817834803c2a06c008, 0x45d8214d701f509800358401⟩,
  ⟨1, 2, 0x5468328000002b183a1c58e7, 0x56243c1f505f⟩,
  ⟨8, 5, 0x800000459c01800cfa032c02817c34803c2a06c008, 0x45d8214d701f509800358401⟩,
  ⟨1, 2, 0x5468328000002b183a2efce7, 0x56983c301c5f⟩,
  ⟨1, 2, 0x5468328000002b183a168ce7, 0x56d83c18805f⟩,
  ⟨1, 2, 0x5468328000002b183a37e4e7, 0x57543c2b745f⟩,
  ⟨1, 2, 0x5468328000002b183a34c4e7, 0x58443c2b745f⟩,
  ⟨15, 2, 0x8000000edc0141707455941d3b0c554f8824046809353875, 0x33c43933c80f38a4343b1038⟩,
  ⟨8, 5, 0x2e6823800000459c010eec24032c02854044, 0x527c003bd81c30d8013bd402⟩,
  ⟨1, 2, 0x8000000f181282219b, 0x0⟩,
  ⟨1, 2, 0xf203c8000000f1c150f18128224e8, 0x0⟩,
  ⟨1, 2, 0xf3c3c800000822a98, 0x0⟩,
  ⟨8, 5, 0x2e7023800000459c01024024032c02854044, 0x527c003bd81c30d801376c02⟩,
  ⟨8, 5, 0x2e8c23800000459c010eec24032c02832044, 0x527c003c501c30d8013c4802⟩,
  ⟨1, 2, 0xf203c8000000f1c150f18128110e8, 0x0⟩,
  ⟨1, 2, 0x8000000f1812822d9b, 0x0⟩,
  ⟨8, 5, 0x2e9023800000459c010eec24032c02832044, 0x527c003c501c30d801377002⟩,
  ⟨1, 2, 0xf203c8000000f1c150f181280f4e8, 0x0⟩,
  ⟨1, 2, 0xf203c8000000f1c150f181280f4e8, 0x0⟩,
  ⟨8, 5, 0x2eb023800000459c010eec24032c02828044, 0x527c003d101c30d8013d0802⟩,
  ⟨1, 2, 0xf203c8000000f1c150f18128230e8, 0x0⟩,
  ⟨1, 2, 0xf203c8000000f1c150f18128114e8, 0x0⟩,
  ⟨8, 5, 0x2eb423800000459c010eec24032c02828044, 0x527c003d101c30d801377c02⟩,
  ⟨8, 5, 0x2ecc23800000459c010eec24032c02828444, 0x527c003e441c30d8013e3c02⟩,
  ⟨8, 5, 0x2ed023800000459c010eec24032c02828444, 0x527c003e441c30d801378402⟩,
  ⟨8, 5, 0x2ed823800000459c010eec24032c02828844, 0x527c003f641c30d8013f5c02⟩,
  ⟨8, 5, 0x2edc23800000459c010eec24032c02828844, 0x527c003f641c30d801378c02⟩,
  ⟨1, 2, 0xf203c8000000f1c150f18128234e8, 0x0⟩,
  ⟨11, 6, 0xf948280000011080157181d80246d, 0x33600f⟩,
  ⟨1, 5, 0x8000008050b752941d04240281912a, 0x2ef029⟩,
  ⟨1, 5, 0x39b406800000041c0280b102, 0x18f813⟩,
  ⟨11, 5, 0x80000010fc0180246f, 0x2fa80f⟩,
  ⟨9, 5, 0x8000004e0c2752a81d80346f, 0x0⟩,
  ⟨9, 5, 0x8000004e182752b41d80346f, 0x0⟩,
  ⟨9, 5, 0x8000008094fb, 0x0⟩,
  ⟨9, 5, 0x8000008094fb, 0x0⟩,
  ⟨9, 5, 0x8000008094fb, 0x0⟩,
  ⟨11, 5, 0x80000080981d810d9c, 0x0⟩,
  ⟨1, 5, 0x8000008040fc, 0x0⟩,
  ⟨1, 5, 0x8000008040fc, 0x0⟩,
  ⟨11, 5, 0x80000080981d810d9c, 0x0⟩,
  ⟨1, 5, 0x8000008040fc, 0x0⟩,
  ⟨1, 5, 0x8000008040fc, 0x0⟩,
  ⟨1, 5, 0x8000008040fc, 0x0⟩,
  ⟨1, 5, 0x8000008040fc, 0x0⟩,
  ⟨9, 5, 0x800000820cfb, 0x0⟩,
  ⟨9, 5, 0x8000008210fb, 0x0⟩,
  ⟨1, 5, 0x80000082192b, 0x0⟩,
  ⟨9, 5, 0x8000008214fb, 0x0⟩,
  ⟨1, 5, 0x80000080f12b, 0x0⟩,
  ⟨1, 5, 0x80000080f12b, 0x0⟩,
  ⟨1, 5, 0x800000821d2b, 0x0⟩,
  ⟨14, 6, 0x800000802c95, 0x0⟩,
  ⟨14, 6, 0x800000802c95, 0x0⟩,
  ⟨14, 6, 0x800000802c95, 0x0⟩,
  ⟨14, 6, 0x800000802c95, 0x0⟩,
  ⟨14, 6, 0x800000802c95, 0x0⟩,
  ⟨14, 6, 0x800000802c95, 0x0⟩,
  ⟨14, 6, 0x800000802c95, 0x0⟩]

/-- States 2944 to 3007. -/
def states2944 : List PackedRow := [
  ⟨14, 6, 0x800000802c95, 0x0⟩,
  ⟨14, 6, 0x800000802c95, 0x0⟩,
  ⟨14, 6, 0x800000802c95, 0x0⟩,
  ⟨14, 6, 0x800000802c95, 0x0⟩,
  ⟨14, 6, 0x800000802c95, 0x0⟩,
  ⟨14, 6, 0x800000802c95, 0x0⟩,
  ⟨14, 6, 0x800000802c95, 0x0⟩,
  ⟨14, 6, 0x800000806c95, 0x0⟩,
  ⟨14, 6, 0x800000806c95, 0x0⟩,
  ⟨14, 6, 0x800000806c95, 0x0⟩,
  ⟨14, 6, 0x800000806c95, 0x0⟩,
  ⟨14, 6, 0x800000806c95, 0x0⟩,
  ⟨14, 6, 0x800000806c95, 0x0⟩,
  ⟨14, 6, 0x800000806c95, 0x0⟩,
  ⟨14, 6, 0x800000806c95, 0x0⟩,
  ⟨14, 6, 0x800000806c95, 0x0⟩,
  ⟨14, 6, 0x800000806c95, 0x0⟩,
  ⟨15, 2, 0x8000000edc0141a87455941d3b0c554f8824046809353875, 0x33ec3933f00f38a4343b1038⟩,
  ⟨1, 2, 0x8000004428054424042f400945c04c53cc2045c407, 0x43387f4efc5743341453d4744f3c7e⟩,
  ⟨15, 2, 0x8000000edc01210c7455981d3b1455046809353875, 0x315039314c0f38a4343b1038⟩,
  ⟨1, 2, 0x8000008050b750101d04200281914b, 0x2b2c29⟩,
  ⟨8, 5, 0x800000459c010eec2403280281dc0d06a808, 0x5178003bcc1c32700146c81038fc02⟩,
  ⟨8, 2, 0x84d02380000010f40154d01d106024802570, 0x2b640f50b01c⟩,
  ⟨8, 5, 0x800000459c010eec24032802808c0d06a808, 0x5178003c181c327001470010391402⟩,
  ⟨8, 5, 0x800000459c010eec24032c02808c0d06a808, 0x527c003c181c30d801470010470c02⟩,
  ⟨8, 5, 0x800000459c010eec24031c02808c0d06a808, 0x4eec003c381c386001472c1051d402⟩,
  ⟨8, 5, 0x800000459c010eec24032c02832044, 0x527c003c5c1c30d8013c5802⟩,
  ⟨8, 5, 0x800000459c01800cfa032c0281806706c008, 0x509800358401⟩,
  ⟨8, 5, 0x800000459c010eec24032c02832044, 0x527c003c5c1c30d801377402⟩,
  ⟨8, 5, 0x800000459c010eec2403280280280d06a808, 0x5178003c741c327001475010393802⟩,
  ⟨8, 5, 0x800000459c010eec24032c0280280d06a808, 0x527c003c741c30d801475010476002⟩,
  ⟨8, 5, 0x800000459c010eec24031c0280280d06a808, 0x4eec003c8c1c386001477010521002⟩,
  ⟨8, 5, 0x800000459c010eec24031c0280280d06a808, 0x4eec003c9c1c386001478410521002⟩,
  ⟨8, 5, 0x800000459c010eec24031c0280280d06a808, 0x4eec003cec1c38600147ec10521002⟩,
  ⟨8, 5, 0x800000459c010eec24031c0280280d06a808, 0x4eec003cfc1c386001480010521002⟩,
  ⟨8, 5, 0x800000459c010eec24032c02828044, 0x527c003d141c30d8013d0002⟩,
  ⟨8, 5, 0x800000459c010eec24032c02828044, 0x527c003d141c30d801377802⟩,
  ⟨8, 5, 0x800000459c010eec2403280280180d06a808, 0x5178003d4c1c327001480c10395002⟩,
  ⟨8, 5, 0x800000459c010eec24031c0280180d06a808, 0x4eec003d5c1c386001482410524c02⟩,
  ⟨8, 5, 0x800000459c010eec24031c0280180d06a808, 0x4eec003d681c386001483c10524c02⟩,
  ⟨8, 5, 0x800000459c010eec24031c0280180d06a808, 0x4eec003ddc1c38600148f410524c02⟩,
  ⟨8, 5, 0x800000459c010eec24031c0280180d06a808, 0x4eec003dec1c386001490810524c02⟩,
  ⟨8, 5, 0x800000459c010eec24031c0280180d06a808, 0x4eec003e281c386001495c10524c02⟩,
  ⟨8, 5, 0x800000459c010eec24031c0280180d06a808, 0x4eec003e301c386001496810524c02⟩,
  ⟨8, 5, 0x800000459c010eec24032c02828444, 0x527c003e401c30d8013e3402⟩,
  ⟨8, 5, 0x800000459c010eec24032c02828444, 0x527c003e401c30d801378002⟩,
  ⟨8, 5, 0x800000459c010eec2403280280100d06a808, 0x5178003e741c327001497c10396002⟩,
  ⟨8, 5, 0x800000459c010eec24031c0280100d06a808, 0x4eec003e801c386001499810526002⟩,
  ⟨8, 5, 0x800000459c010eec24031c0280100d06a808, 0x4eec003ef01c3860014a7c10526002⟩,
  ⟨8, 5, 0x800000459c010eec24031c0280100d06a808, 0x4eec003efc1c3860014a9410526002⟩,
  ⟨8, 5, 0x800000459c010eec24031c0280100d06a808, 0x4eec003f501c3860014b2810526002⟩,
  ⟨8, 5, 0x800000459c010eec24032c02828844, 0x527c003f601c30d8013f5402⟩,
  ⟨8, 5, 0x800000459c010eec24032c02828844, 0x527c003f601c30d801378802⟩,
  ⟨8, 5, 0x800000459c010eec24031c0280140d06a808, 0x4eec003fc81c3860014bfc10526802⟩,
  ⟨8, 5, 0x800000459c010eec24032c0283c044, 0x527c0040041c30d8013ff802⟩,
  ⟨8, 5, 0x800000459c010eec24032c0283c044, 0x527c0040041c30d801379002⟩,
  ⟨1, 5, 0x80000080619d, 0x0⟩,
  ⟨1, 5, 0x80000052981d80506f, 0x0⟩,
  ⟨1, 5, 0x80000082e19d, 0x0⟩,
  ⟨1, 5, 0x80000080d59e, 0x0⟩,
  ⟨1, 5, 0x80000080d59e, 0x0⟩,
  ⟨1, 5, 0x10a08280000080246f, 0x0⟩,
  ⟨1, 5, 0x10a48280000080246f, 0x0⟩,
  ⟨1, 5, 0x10a08280000081046f, 0x0⟩]

/-- States 3008 to 3071. -/
def states3008 : List PackedRow := [
  ⟨11, 6, 0x80000011080157181d80246d, 0x33600f⟩,
  ⟨1, 6, 0x80000052ec1d042c0280506d, 0x30f029⟩,
  ⟨8, 2, 0x80000082019f, 0x0⟩,
  ⟨8, 5, 0x800000800c71816c34803c2a06c008, 0x45d82145d41f⟩,
  ⟨8, 2, 0x80000082059f, 0x0⟩,
  ⟨8, 5, 0x800000800c71817034803c2a06c008, 0x45d8214d701f⟩,
  ⟨8, 5, 0x800000800c71817834803c2a06c008, 0x45d8214d701f⟩,
  ⟨8, 5, 0x800000800c71817434803c2a06c008, 0x45d8214d701f⟩,
  ⟨8, 5, 0x800000800c71817c34803c2a06c008, 0x45d8214d701f⟩,
  ⟨15, 2, 0x8000000edc0118ec7455981d3b1455046809353875, 0x33943933900f38a4343b1038⟩,
  ⟨15, 2, 0x8000000edc0141747455981d3b1455046809353875, 0x33d03933cc0f38a4343b1038⟩,
  ⟨15, 2, 0x8000000edc0141ac7455981d3b1455046809353875, 0x33f83933f40f38a4343b1038⟩,
  ⟨14, 2, 0x80000010f40146d827509c1d0430028034b9, 0x2b780f2ac829⟩,
  ⟨14, 2, 0x80000010f40146dc2750a01d0430028034b9, 0x2b7c0f2acc29⟩,
  ⟨14, 2, 0x80000010f40146e02750a41d0430028034b9, 0x2b800f2ad029⟩,
  ⟨16, 2, 0x8000003878013accd02f44cf045009, 0x20c8653074072f4461⟩,
  ⟨1, 2, 0x80000044d40544d004350c3554383454342a309c4c45c807, 0x4f405745cc76543c54⟩,
  ⟨16, 2, 0x8000003878013accd030a8cf045009, 0x212c6530740730a861⟩,
  ⟨8, 5, 0x800000459c01032c02800e99, 0x509800358401⟩,
  ⟨8, 5, 0x800000800d27, 0x0⟩,
  ⟨1, 5, 0x8000008050b752981d81912a, 0x0⟩,
  ⟨8, 5, 0x800000840927, 0x0⟩,
  ⟨1, 5, 0x80000082e46f, 0x0⟩,
  ⟨1, 5, 0x80000080246f, 0x0⟩,
  ⟨1, 5, 0x80000080586f, 0x0⟩,
  ⟨1, 5, 0x80000080246f, 0x0⟩,
  ⟨1, 5, 0x80000080506f, 0x0⟩,
  ⟨1, 5, 0x8000000ea4038051a0, 0x0⟩,
  ⟨1, 5, 0x80000080586f, 0x0⟩,
  ⟨1, 6, 0x8000008050b752ec1d042c028190c7, 0x30f029⟩,
  ⟨1, 5, 0x80000080c46f, 0x0⟩,
  ⟨1, 5, 0x80000080346f, 0x0⟩,
  ⟨1, 5, 0x80000080e46f, 0x0⟩,
  ⟨1, 5, 0x80000082e86f, 0x0⟩,
  ⟨1, 5, 0x8000000fc8128221a1, 0x0⟩,
  ⟨1, 5, 0x800000814c6f, 0x0⟩,
  ⟨1, 5, 0x80000080f86f, 0x0⟩,
  ⟨1, 5, 0x80000081086f, 0x0⟩,
  ⟨1, 5, 0x112c3c8000000fcc150fc8128224e9, 0x0⟩,
  ⟨1, 5, 0x8000008050b70ea40382ed2a, 0x0⟩,
  ⟨1, 5, 0xfdc3c800000822a9a, 0x0⟩,
  ⟨1, 5, 0x8000000ea40382f1a0, 0x0⟩,
  ⟨1, 5, 0x80000081086f, 0x0⟩,
  ⟨1, 5, 0x80000082486f, 0x0⟩,
  ⟨1, 5, 0x80000080b06f, 0x0⟩,
  ⟨1, 5, 0x80000080b06f, 0x0⟩,
  ⟨1, 5, 0x80000080b06f, 0x0⟩,
  ⟨1, 5, 0x80000082f46f, 0x0⟩,
  ⟨1, 5, 0x80000081506f, 0x0⟩,
  ⟨1, 5, 0x80000081506f, 0x0⟩,
  ⟨1, 5, 0x80000082f86f, 0x0⟩,
  ⟨1, 5, 0x80000081106f, 0x0⟩,
  ⟨1, 5, 0x112c3c8000000fcc150fc8128110e9, 0x0⟩,
  ⟨1, 5, 0x80000082fc6f, 0x0⟩,
  ⟨1, 5, 0x8000000fc812822da1, 0x0⟩,
  ⟨1, 5, 0x80000083006f, 0x0⟩,
  ⟨1, 5, 0x800000824c6f, 0x0⟩,
  ⟨1, 5, 0x80000081546f, 0x0⟩,
  ⟨1, 5, 0x80000081546f, 0x0⟩,
  ⟨1, 5, 0x80000083046f, 0x0⟩,
  ⟨1, 5, 0x112c3c8000000fcc150fc8128230e9, 0x0⟩,
  ⟨1, 5, 0x80000083086f, 0x0⟩,
  ⟨1, 5, 0x80000081146f, 0x0⟩,
  ⟨1, 5, 0x112c3c8000000fcc150fc8128114e9, 0x0⟩]

end JsxDetect.Automaton
