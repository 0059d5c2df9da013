import JsxDetect.Automaton.Packed

/-!
# Parsing automaton: states 3584 to 4095

Packed rows; see `PackedRow` for the layout.
-/

namespace JsxDetect.Automaton

/-- States 3584 to 3647. -/
def states3584 : List PackedRow := [
  ⟨1, 2, 0x800000037c031d6009343007, 0x34e80644344c⟩,
  ⟨1, 2, 0x800000037c031d6009343007, 0x34e80644384c⟩,
  ⟨8, 2, 0x800000459c01031c023a6c20428c07, 0x4eec00386001518002⟩,
  ⟨8, 2, 0x800000459c01031c023a742042a007, 0x4eec0038600151a802⟩,
  ⟨1, 2, 0x1080828000008024b9, 0x0⟩,
  ⟨1, 2, 0x1084828000008024b9, 0x0⟩,
  ⟨1, 2, 0x113c3c80000010c01510bc128110eb, 0x0⟩,
  ⟨1, 2, 0x80000010bc12822dab, 0x0⟩,
  ⟨1, 2, 0x113c3c80000010c01510bc1280f4eb, 0x0⟩,
  ⟨1, 2, 0x113c3c80000010c01510bc1280f4eb, 0x0⟩,
  ⟨1, 2, 0x113c3c80000010c01510bc128230eb, 0x0⟩,
  ⟨1, 2, 0x113c3c80000010c01510bc128114eb, 0x0⟩,
  ⟨1, 2, 0x113c3c80000010c01510bc128234eb, 0x0⟩,
  ⟨8, 2, 0x800000459c01031c023a9c20428007, 0x4eec003860014f1c02⟩,
  ⟨1, 2, 0x8000008030a3827008, 0x0⟩,
  ⟨8, 2, 0x800000459c01031c023aa020429007, 0x4eec003860014f8002⟩,
  ⟨1, 2, 0x80000044b40544b00454801d450407, 0xc0c300bb414450815⟩,
  ⟨1, 2, 0x8000008070a307c808, 0x0⟩,
  ⟨1, 2, 0x80000010bc128221ab, 0x0⟩,
  ⟨1, 2, 0x113c3c80000010c01510bc128224eb, 0x0⟩,
  ⟨1, 2, 0x10d03c800000822a9f, 0x0⟩,
  ⟨8, 2, 0x800000459c01031c023aa82042c407, 0x4eec003860014f1c02⟩,
  ⟨8, 2, 0x800000459c01031c023aac2042cc07, 0x4eec003860014f8002⟩,
  ⟨17, 7, 0x51c9620b406800000387514, 0x387458⟩,
  ⟨1, 2, 0x8000000e3824841900, 0x4f304d⟩,
  ⟨1, 2, 0x541422455c0f80000030981328944d, 0x388005132c04⟩,
  ⟨1, 2, 0x80000044b40544b0040b5007, 0xdc4300bb4140b5415⟩,
  ⟨1, 2, 0x80000044b40544b0040b5007, 0xc0c300bb4140b5415⟩,
  ⟨8, 2, 0x800000459c01031c023b0407, 0x4eec003860014f8402⟩,
  ⟨17, 7, 0x51c9621100680000038a914, 0x38a858⟩,
  ⟨10, 2, 0x8000004168743100ca3ac8552d3007, 0x33c0342f2815⟩,
  ⟨1, 2, 0x8000000e3824829100, 0x4fac4d⟩,
  ⟨1, 2, 0x88a80f8000008346a0, 0x388005132c04⟩,
  ⟨14, 2, 0x80000053d01d827d10541807, 0x0⟩,
  ⟨8, 2, 0x800000800ea1, 0x0⟩,
  ⟨8, 2, 0x3b3c23800000459c01031c02, 0x4eec003860014fd802⟩,
  ⟨8, 2, 0x800000459c01031c023b4407, 0x4eec003860014f8402⟩,
  ⟨1, 2, 0x80000005414e0c9c3454b49d, 0x38bc82⟩,
  ⟨1, 2, 0x80000010602488acd6072008, 0x438c1c4ff410⟩,
  ⟨1, 2, 0xf203c8000000f1c150f18120f142a88b009, 0x46844f⟩,
  ⟨8, 2, 0x800000459c01031c023b6407, 0x4eec00386001501802⟩,
  ⟨15, 2, 0x800000319008855098, 0x0⟩,
  ⟨17, 7, 0x88bc9688b80680000088b514, 0x38a858⟩,
  ⟨1, 2, 0xf203c8000000f1c150f18123560550e902a, 0x46984f⟩,
  ⟨8, 2, 0x3ba823800000459c01031c02, 0x4eec00386001507002⟩,
  ⟨8, 2, 0x800000800c6c818c67, 0x0⟩,
  ⟨8, 2, 0x800000459c01031c023bac07, 0x4eec00386001501802⟩,
  ⟨1, 2, 0x80000005414e0d043454b49d, 0x38ec82⟩,
  ⟨1, 2, 0x8000000390031fa00943b807, 0x43b806⟩,
  ⟨1, 2, 0x800000037c031d600946b407, 0x46b406⟩,
  ⟨1, 2, 0x8000000390031fa00946bc07, 0x46bc06⟩,
  ⟨8, 2, 0x3bc423800000459c01032802, 0x51780032700138f002⟩,
  ⟨1, 6, 0x8000008430ae007409, 0x274020⟩,
  ⟨1, 5, 0x8000000a887014fc0d, 0x390844⟩,
  ⟨1, 2, 0x113c3c50b42380000010c01510bc1288c09a, 0x0⟩,
  ⟨15, 2, 0x800000853ea2, 0x0⟩,
  ⟨1, 2, 0xf203c8000000f1c150f181288c6a3, 0x0⟩,
  ⟨8, 2, 0x80000011040143dc2a84243b, 0x43e46d4d280f⟩,
  ⟨8, 2, 0x3c0023800000459c01031c02, 0x4eec0038600150f802⟩,
  ⟨1, 2, 0x80000088d14e88cc3488c89d, 0x38ec82⟩,
  ⟨1, 6, 0x8000008294ae007409, 0x274420⟩,
  ⟨8, 2, 0x3c1023800000459c01032802, 0x517800327001391802⟩,
  ⟨8, 2, 0x3c1c23800000459c01032c02, 0x527c0030d801470802⟩,
  ⟨1, 6, 0x8000008294ae007409, 0x274820⟩]

/-- States 3648 to 3711. -/
def states3648 : List PackedRow := [
  ⟨8, 2, 0x3c4423800000459c01032c02, 0x527c0030d8013c4802⟩,
  ⟨1, 5, 0x8000000a8c7015000d, 0x392444⟩,
  ⟨1, 5, 0x8000000a8c7015000d, 0x392c44⟩,
  ⟨1, 2, 0xf203c8000000f1c150f1812855aa4, 0x0⟩,
  ⟨8, 2, 0x3c6c23800000459c01031c02, 0x4eec00386001513402⟩,
  ⟨1, 6, 0x8000008298ae007409, 0x274c20⟩,
  ⟨1, 6, 0x8000008298ae007409, 0x275020⟩,
  ⟨8, 2, 0x3c7023800000459c01032802, 0x517800327001393c02⟩,
  ⟨8, 2, 0x3c8023800000459c01032c02, 0x527c0030d801476402⟩,
  ⟨1, 5, 0x8000000a907015040d, 0x392c44⟩,
  ⟨8, 2, 0x3d0423800000459c01032c02, 0x527c0030d8013d0802⟩,
  ⟨1, 5, 0x800000855c7088d40d, 0x392c44⟩,
  ⟨8, 2, 0x80000011040156cc1d83c8d7, 0x4d240f⟩,
  ⟨8, 2, 0x3d2023800000459c01031c02, 0x4eec00386001514802⟩,
  ⟨1, 6, 0x800000829cae007409, 0x275420⟩,
  ⟨1, 6, 0x800000829cae007409, 0x275820⟩,
  ⟨8, 2, 0x3d4823800000459c01032802, 0x517800327001395402⟩,
  ⟨8, 2, 0x3d5423800000459c01032c02, 0x527c0030d801481c02⟩,
  ⟨8, 2, 0x3e3823800000459c01032c02, 0x527c0030d8013e3c02⟩,
  ⟨8, 2, 0x3e4c23800000459c01031c02, 0x4eec00386001515802⟩,
  ⟨1, 6, 0x80000082a0ae007409, 0x275c20⟩,
  ⟨1, 6, 0x80000082a0ae007409, 0x276020⟩,
  ⟨8, 2, 0x3e5023800000459c01032802, 0x517800327001396402⟩,
  ⟨8, 2, 0x3f5823800000459c01032c02, 0x527c0030d8013f5c02⟩,
  ⟨1, 6, 0x80000082a4ae007409, 0x276420⟩,
  ⟨1, 6, 0x80000082a4ae007409, 0x276820⟩,
  ⟨8, 2, 0x3f8c23800000459c01032802, 0x517800327001397402⟩,
  ⟨8, 2, 0x3ffc23800000459c01032c02, 0x527c0030d801400002⟩,
  ⟨1, 6, 0x80000082a8ae007409, 0x276c20⟩,
  ⟨1, 6, 0x80000082a8ae007409, 0x277020⟩,
  ⟨8, 2, 0x401c23800000459c01032c02, 0x527c0030d801402002⟩,
  ⟨1, 6, 0x8000008434ae007409, 0x277420⟩,
  ⟨1, 6, 0x80000084392f, 0x0⟩,
  ⟨1, 6, 0x800000843d2f, 0x0⟩,
  ⟨1, 6, 0x80000084412f, 0x0⟩,
  ⟨1, 6, 0x80000084452f, 0x0⟩,
  ⟨1, 5, 0x8000008290ff, 0x0⟩,
  ⟨1, 5, 0x8000008448ff, 0x0⟩,
  ⟨1, 5, 0x800000844cff, 0x0⟩,
  ⟨1, 5, 0x8000008450ff, 0x0⟩,
  ⟨1, 2, 0x80000080c4b9, 0x0⟩,
  ⟨1, 2, 0x8000008248b9, 0x0⟩,
  ⟨1, 2, 0x800000824cb9, 0x0⟩,
  ⟨1, 2, 0x8000008250b9, 0x0⟩,
  ⟨1, 2, 0x8000008254b9, 0x0⟩,
  ⟨17, 7, 0x51c9618ac0680000039c114, 0x39c058⟩,
  ⟨1, 2, 0x800000442805442404347c07, 0x41d83037b414348015⟩,
  ⟨1, 2, 0x800000442805442404347c07, 0x40383037b414348015⟩,
  ⟨17, 7, 0x51c9618f00680000038a914, 0x38a858⟩,
  ⟨10, 2, 0x80000041a0743104ca3ac8552e4407, 0x33e8342f2c15⟩,
  ⟨1, 2, 0xf203c8000000f1c150f18121e70550e9c2a, 0x4dc04f⟩,
  ⟨8, 2, 0x422c23800000459c01032c02, 0x527c0030d801377002⟩,
  ⟨1, 5, 0x8000001e747015100d, 0x39dc44⟩,
  ⟨8, 2, 0x423c23800000459c01032c02, 0x527c0030d801377c02⟩,
  ⟨1, 5, 0x8000001edc7015140d, 0x39f444⟩,
  ⟨1, 5, 0x8000001edc7015140d, 0x392c44⟩,
  ⟨1, 2, 0x11383c800000107c151078128110ec, 0x0⟩,
  ⟨1, 2, 0x800000107812822dac, 0x0⟩,
  ⟨1, 2, 0x11383c800000107c1510781280f4ec, 0x0⟩,
  ⟨1, 2, 0x11383c800000107c1510781280f4ec, 0x0⟩,
  ⟨8, 2, 0x424823800000459c01032c02, 0x527c0030d801378402⟩,
  ⟨1, 5, 0x8000001f207015180d, 0x392c44⟩,
  ⟨1, 2, 0x11383c800000107c151078128230ec, 0x0⟩,
  ⟨1, 2, 0x11383c800000107c151078128114ec, 0x0⟩]

/-- States 3712 to 3775. -/
def states3712 : List PackedRow := [
  ⟨8, 2, 0x424c23800000459c01032c02, 0x527c0030d801378c02⟩,
  ⟨8, 2, 0x425023800000459c01032c02, 0x527c0030d801379402⟩,
  ⟨8, 2, 0x425423800000459c01032c02, 0x527c0030d801379c02⟩,
  ⟨1, 2, 0x11383c800000107c151078128234ec, 0x0⟩,
  ⟨1, 2, 0xf203c8000000f1c150f18121740550ea82a, 0x4e084f⟩,
  ⟨1, 5, 0x8000002fac70151c0d, 0x3a1c44⟩,
  ⟨1, 5, 0x8000002fe07015200d, 0x3a2044⟩,
  ⟨1, 5, 0x8000002fe07015200d, 0x392c44⟩,
  ⟨1, 5, 0x80000030007015240d, 0x392c44⟩,
  ⟨1, 2, 0xf203c8000000f1c150f18122b08550eb42a, 0x4e3c4f⟩,
  ⟨1, 5, 0x80000017c47015280d, 0x3a3044⟩,
  ⟨1, 5, 0x800000182470152c0d, 0x3a3444⟩,
  ⟨1, 5, 0x800000182470152c0d, 0x392c44⟩,
  ⟨1, 5, 0x80000018647015300d, 0x392c44⟩,
  ⟨1, 2, 0xf203c8000000f1c150f18122dd0550ec02a, 0x4e5c4f⟩,
  ⟨1, 5, 0x80000032e47015340d, 0x3a4444⟩,
  ⟨1, 5, 0x80000033207015380d, 0x3a4844⟩,
  ⟨1, 5, 0x80000033207015380d, 0x392c44⟩,
  ⟨1, 5, 0x800000334470153c0d, 0x392c44⟩,
  ⟨1, 2, 0xf203c8000000f1c150f18124d2c550ec82a, 0x4e804f⟩,
  ⟨1, 5, 0x80000039a47015400d, 0x3a5844⟩,
  ⟨1, 5, 0x80000039a87015440d, 0x3a5c44⟩,
  ⟨1, 5, 0x80000039a87015440d, 0x392c44⟩,
  ⟨1, 5, 0x80000039ac7015480d, 0x392c44⟩,
  ⟨1, 2, 0xf203c8000000f1c150f181232e0550ed02a, 0x4e904f⟩,
  ⟨1, 2, 0x541422455c0f800000310c1328c04d, 0x388005132c04⟩,
  ⟨8, 2, 0x429c23800000459c01031c02, 0x4eec0038600151d002⟩,
  ⟨8, 2, 0x800000459c01031c0242a407, 0x4eec0038600151ac02⟩,
  ⟨8, 2, 0x42ac23800000459c01031c02, 0x4eec00386001521402⟩,
  ⟨8, 2, 0x800000459c01031c0242b007, 0x4eec0038600151f002⟩,
  ⟨1, 2, 0x8000001078128221ac, 0x0⟩,
  ⟨1, 2, 0x11383c800000107c151078128224ec, 0x0⟩,
  ⟨1, 2, 0x108c3c800000822aa5, 0x0⟩,
  ⟨8, 2, 0x42b423800000459c01031c02, 0x4eec00386001525002⟩,
  ⟨8, 2, 0x42b823800000459c01031c02, 0x4eec00386001526402⟩,
  ⟨8, 2, 0x42bc23800000459c01031c02, 0x4eec00386001526c02⟩,
  ⟨8, 2, 0x42c023800000459c01031c02, 0x4eec00386001527402⟩,
  ⟨1, 2, 0x80000044b40544b004450407, 0xdc4300bb414450815⟩,
  ⟨1, 2, 0x80000044b40544b004450407, 0xc0c300bb414450815⟩,
  ⟨8, 2, 0x800000459c01031c02429407, 0x4eec003860014f8402⟩,
  ⟨8, 2, 0x800000459c01031c0242a807, 0x4eec00386001501802⟩,
  ⟨1, 2, 0x541422455c0f800000310c1328e04d, 0x388005132c04⟩,
  ⟨8, 2, 0x800000459c01031c0242d007, 0x4eec003860014f8402⟩,
  ⟨8, 2, 0x800000459c01031c0242d407, 0x4eec00386001501802⟩,
  ⟨14, 2, 0x80000053d01d827d10582007, 0x0⟩,
  ⟨1, 2, 0x541422455c0f800000542813, 0x388005132c04⟩,
  ⟨8, 2, 0x80000006587e800c6c, 0x0⟩,
  ⟨14, 2, 0x80000053d01d827d10, 0x0⟩,
  ⟨1, 2, 0x800000831892, 0x0⟩,
  ⟨8, 2, 0x800000459c01032802, 0x5178003270013b0802⟩,
  ⟨16, 2, 0x80000088d891, 0x0⟩,
  ⟨10, 2, 0x8000004f9cca212855463407, 0x548c344fa015⟩,
  ⟨1, 2, 0x80000044b40544b004549407, 0x549454⟩,
  ⟨1, 2, 0x541422455c0f800000309813, 0x388005132c04⟩,
  ⟨1, 2, 0x80000044d40544d004463c07, 0x463c54⟩,
  ⟨8, 2, 0x800000459c01032802, 0x5178003270013b3402⟩,
  ⟨1, 2, 0x8000008072a606e408, 0x0⟩,
  ⟨8, 2, 0x800000459c01031c02, 0x4eec003860014fe002⟩,
  ⟨8, 2, 0x800000459c01031c02, 0x4eec003860014fec02⟩,
  ⟨1, 2, 0x800000800c24354c3420d42a06c008, 0x4d7421⟩,
  ⟨1, 5, 0x80000084540d06a808, 0x466810⟩,
  ⟨1, 2, 0x800000831c92, 0x0⟩,
  ⟨1, 2, 0x800000831c92, 0x0⟩,
  ⟨17, 8, 0x3b60a10f10962b6006800000, 0x3b604b⟩]

/-- States 3776 to 3839. -/
def states3776 : List PackedRow := [
  ⟨8, 2, 0x800000459c01032802, 0x5178003270013b6802⟩,
  ⟨8, 2, 0x800000459c01031c02, 0x4eec00386001501c02⟩,
  ⟨1, 6, 0xcb4c90cb0578000000cb846005009, 0x3c820⟩,
  ⟨16, 2, 0x800000856091, 0x0⟩,
  ⟨15, 2, 0x80000088dc98, 0x0⟩,
  ⟨16, 2, 0x800000856091, 0x0⟩,
  ⟨1, 2, 0x80000085654f, 0x0⟩,
  ⟨2, 2, 0x43783c800000147c3b, 0xcc466468c78⟩,
  ⟨1, 2, 0x80000088e0250e3824, 0x4f304d⟩,
  ⟨16, 2, 0x800000856891, 0x0⟩,
  ⟨1, 2, 0x80000044b40544b004504407, 0x504454⟩,
  ⟨8, 2, 0x800000459c01032802, 0x5178003270013ba002⟩,
  ⟨8, 2, 0x800000459c01031c02, 0x4eec00386001504c02⟩,
  ⟨1, 6, 0xcb4c90cb0578000000cb846007009, 0xb8820⟩,
  ⟨1, 5, 0xcdc57112c3c8000000fcc150fc8120ce046, 0x0⟩,
  ⟨8, 2, 0x800000459c01031c02, 0x4eec00386001506802⟩,
  ⟨8, 2, 0x800000459c01031c02, 0x4eec00386001507c02⟩,
  ⟨8, 2, 0x800000459c01031c02, 0x4eec00386001508002⟩,
  ⟨1, 2, 0x80000081d492, 0x0⟩,
  ⟨1, 2, 0x80000081d492, 0x0⟩,
  ⟨1, 2, 0x80000081d492, 0x0⟩,
  ⟨1, 2, 0x80000081d492, 0x0⟩,
  ⟨1, 5, 0x80000081dc0d06a808, 0x46cc10⟩,
  ⟨1, 5, 0x80000088e444, 0x0⟩,
  ⟨17, 8, 0x3be4a10f10962b9006800000, 0x3be44b⟩,
  ⟨8, 2, 0x800000459c01031c02, 0x4eec0038600150bc02⟩,
  ⟨1, 6, 0xd18c90d14578000000d1c46005009, 0x3d420⟩,
  ⟨16, 2, 0x80000083cc91, 0x0⟩,
  ⟨1, 2, 0xf203c8000000f1c150f181288e8c8, 0x0⟩,
  ⟨16, 2, 0x80000083cc91, 0x0⟩,
  ⟨16, 2, 0x80000083cc91, 0x0⟩,
  ⟨16, 2, 0x80000083cc91, 0x0⟩,
  ⟨1, 2, 0x800000856d4f, 0x0⟩,
  ⟨1, 2, 0x8000000d303428ac2a072008, 0x46f06350c810⟩,
  ⟨1, 2, 0x8000001060248032a7, 0x50b01c⟩,
  ⟨1, 2, 0x80000088ec250e3824, 0x4f304d⟩,
  ⟨1, 2, 0x80000088f0250e3824, 0x4fac4d⟩,
  ⟨16, 2, 0x800000857091, 0x0⟩,
  ⟨1, 2, 0x80000044b40544b00450d407, 0x50d454⟩,
  ⟨8, 2, 0x800000459c01031c02, 0x4eec0038600150d802⟩,
  ⟨1, 6, 0xd18c90d14578000000d1c46007009, 0xb9420⟩,
  ⟨1, 5, 0xd4857112c3c8000000fcc150fc8120d4c46, 0x0⟩,
  ⟨8, 2, 0x800000459c01031c02, 0x4eec0038600150f002⟩,
  ⟨8, 2, 0x800000459c01031c02, 0x4eec0038600150fc02⟩,
  ⟨1, 5, 0x800000055c8905587e84540d, 0x0⟩,
  ⟨1, 2, 0x80000081d892, 0x0⟩,
  ⟨1, 2, 0x80000081d892, 0x0⟩,
  ⟨1, 2, 0x80000081d892, 0x0⟩,
  ⟨1, 2, 0x80000081d892, 0x0⟩,
  ⟨8, 2, 0x800000459c01032802, 0x517800327001391402⟩,
  ⟨1, 5, 0x800000808c0d06a808, 0x470410⟩,
  ⟨1, 5, 0x800000808c0d06a808, 0x471010⟩,
  ⟨1, 5, 0x800000808c0d06a808, 0x473010⟩,
  ⟨1, 5, 0x800000843044, 0x0⟩,
  ⟨1, 5, 0x800000832044, 0x0⟩,
  ⟨1, 2, 0xf203c8000000f1c150f181288f49a, 0x0⟩,
  ⟨1, 2, 0x8000008050b70e8c03474034, 0x0⟩,
  ⟨17, 8, 0x8900a188fc9688f806800000, 0x3be44b⟩,
  ⟨15, 2, 0x800000857498, 0x0⟩,
  ⟨15, 2, 0x800000857498, 0x0⟩,
  ⟨16, 2, 0x800000857891, 0x0⟩,
  ⟨16, 2, 0x800000857891, 0x0⟩,
  ⟨1, 2, 0x800000857d4f, 0x0⟩,
  ⟨1, 2, 0x8000008904250e3824, 0x4fac4d⟩]

/-- States 3840 to 3903. -/
def states3840 : List PackedRow := [
  ⟨8, 2, 0x800000459c01031c02, 0x4eec00386001512c02⟩,
  ⟨1, 2, 0x800000852892, 0x0⟩,
  ⟨1, 2, 0x11383c800000107c151078128908450f6436, 0x0⟩,
  ⟨1, 5, 0x800000890c44, 0x0⟩,
  ⟨8, 2, 0x800000459c01032802, 0x517800327001393802⟩,
  ⟨1, 5, 0x80000080280d06a808, 0x475410⟩,
  ⟨1, 5, 0x80000080280d06a808, 0x475810⟩,
  ⟨8, 2, 0x800000459c01032c02, 0x527c0030d801476002⟩,
  ⟨1, 5, 0x80000080280d06a808, 0x477410⟩,
  ⟨1, 5, 0x80000080280d06a808, 0x478810⟩,
  ⟨1, 5, 0x80000080280d06a808, 0x47a410⟩,
  ⟨1, 5, 0x80000080280d06a808, 0x47bc10⟩,
  ⟨1, 5, 0x80000080280d06a808, 0x47c810⟩,
  ⟨1, 5, 0x80000080280d06a808, 0x47cc10⟩,
  ⟨1, 5, 0x80000080280d06a808, 0x47d010⟩,
  ⟨1, 5, 0x80000080280d06a808, 0x47f010⟩,
  ⟨1, 5, 0x80000080280d06a808, 0x480410⟩,
  ⟨8, 2, 0x800000459c01032c02, 0x527c0030d8013d0002⟩,
  ⟨1, 5, 0x800000829444, 0x0⟩,
  ⟨1, 5, 0x800000842844, 0x0⟩,
  ⟨1, 5, 0x800000828044, 0x0⟩,
  ⟨1, 5, 0x800000855c44, 0x0⟩,
  ⟨1, 5, 0x800000829444, 0x0⟩,
  ⟨1, 5, 0x800000828044, 0x0⟩,
  ⟨15, 2, 0x800000891098, 0x0⟩,
  ⟨1, 5, 0xd9c57112c3c8000000fcc150fc8120da046, 0x0⟩,
  ⟨8, 2, 0x80000011040183c8d7, 0x4d280f⟩,
  ⟨8, 2, 0x800000459c01031c02, 0x4eec00386001514002⟩,
  ⟨8, 2, 0x800000459c01032802, 0x517800327001395002⟩,
  ⟨1, 5, 0x80000080180d06a808, 0x480810⟩,
  ⟨1, 5, 0x80000080180d06a808, 0x481010⟩,
  ⟨1, 5, 0x800000891444, 0x0⟩,
  ⟨8, 2, 0x800000459c01032c02, 0x527c0030d801481802⟩,
  ⟨1, 5, 0x80000080180d06a808, 0x482810⟩,
  ⟨1, 5, 0x80000080180d06a808, 0x482c10⟩,
  ⟨1, 5, 0x80000080180d06a808, 0x483010⟩,
  ⟨1, 5, 0x80000080180d06a808, 0x484010⟩,
  ⟨1, 5, 0x80000080180d06a808, 0x484c10⟩,
  ⟨1, 5, 0x80000080180d06a808, 0x485010⟩,
  ⟨1, 5, 0x80000080180d06a808, 0x485410⟩,
  ⟨1, 5, 0x80000080180d06a808, 0x486410⟩,
  ⟨1, 5, 0x80000080180d06a808, 0x487810⟩,
  ⟨1, 5, 0x80000080180d06a808, 0x488810⟩,
  ⟨1, 5, 0x80000080180d06a808, 0x489410⟩,
  ⟨1, 5, 0x80000080180d06a808, 0x489810⟩,
  ⟨1, 5, 0x80000080180d06a808, 0x489c10⟩,
  ⟨1, 5, 0x80000080180d06a808, 0x48b810⟩,
  ⟨1, 5, 0x80000080180d06a808, 0x48cc10⟩,
  ⟨1, 5, 0x80000080180d06a808, 0x48d810⟩,
  ⟨1, 5, 0x80000080180d06a808, 0x48dc10⟩,
  ⟨1, 5, 0x80000080180d06a808, 0x48e010⟩,
  ⟨1, 5, 0x80000080180d06a808, 0x48e410⟩,
  ⟨1, 5, 0x80000080180d06a808, 0x48e810⟩,
  ⟨1, 5, 0x80000080180d06a808, 0x48f810⟩,
  ⟨1, 5, 0x80000080180d06a808, 0x490c10⟩,
  ⟨1, 5, 0x80000080180d06a808, 0x492810⟩,
  ⟨1, 5, 0x80000080180d06a808, 0x493c10⟩,
  ⟨1, 5, 0x80000080180d06a808, 0x494810⟩,
  ⟨1, 5, 0x80000080180d06a808, 0x494c10⟩,
  ⟨1, 5, 0x80000080180d06a808, 0x495010⟩,
  ⟨1, 5, 0x80000080180d06a808, 0x496010⟩,
  ⟨1, 5, 0x80000080180d06a808, 0x496c10⟩,
  ⟨1, 5, 0x80000080180d06a808, 0x497010⟩,
  ⟨1, 5, 0x80000080180d06a808, 0x497410⟩]

/-- States 3904 to 3967. -/
def states3904 : List PackedRow := [
  ⟨1, 5, 0x800000829844, 0x0⟩,
  ⟨8, 2, 0x800000459c01032c02, 0x527c0030d8013e3402⟩,
  ⟨1, 5, 0x800000829844, 0x0⟩,
  ⟨1, 5, 0x800000842c44, 0x0⟩,
  ⟨1, 5, 0x800000828444, 0x0⟩,
  ⟨1, 5, 0x800000828444, 0x0⟩,
  ⟨1, 5, 0x800000842c44, 0x0⟩,
  ⟨15, 2, 0x800000891898, 0x0⟩,
  ⟨8, 2, 0x800000459c01031c02, 0x4eec00386001515002⟩,
  ⟨1, 5, 0x800000819444, 0x0⟩,
  ⟨1, 5, 0x800000819444, 0x0⟩,
  ⟨1, 5, 0x800000819444, 0x0⟩,
  ⟨1, 5, 0x800000819444, 0x0⟩,
  ⟨1, 5, 0x800000819444, 0x0⟩,
  ⟨1, 5, 0x800000819444, 0x0⟩,
  ⟨1, 5, 0x800000819444, 0x0⟩,
  ⟨1, 5, 0x800000819444, 0x0⟩,
  ⟨1, 5, 0x800000819444, 0x0⟩,
  ⟨8, 2, 0x800000459c01032802, 0x517800327001396002⟩,
  ⟨1, 5, 0x80000080100d06a808, 0x497810⟩,
  ⟨1, 5, 0x80000080100d06a808, 0x498010⟩,
  ⟨8, 2, 0x800000459c01032c02, 0x527c0030d801498802⟩,
  ⟨1, 5, 0x80000080100d06a808, 0x498c10⟩,
  ⟨1, 5, 0x80000080100d06a808, 0x499010⟩,
  ⟨1, 5, 0x80000080100d06a808, 0x499c10⟩,
  ⟨1, 5, 0x80000080100d06a808, 0x49a010⟩,
  ⟨1, 5, 0x80000080100d06a808, 0x49a410⟩,
  ⟨1, 5, 0x80000080100d06a808, 0x49a810⟩,
  ⟨1, 5, 0x80000080100d06a808, 0x49ac10⟩,
  ⟨1, 5, 0x80000080100d06a808, 0x49b810⟩,
  ⟨1, 5, 0x80000080100d06a808, 0x49bc10⟩,
  ⟨1, 5, 0x80000080100d06a808, 0x49c010⟩,
  ⟨1, 5, 0x80000080100d06a808, 0x49d010⟩,
  ⟨1, 5, 0x80000080100d06a808, 0x49dc10⟩,
  ⟨1, 5, 0x80000080100d06a808, 0x49e010⟩,
  ⟨1, 5, 0x80000080100d06a808, 0x49e410⟩,
  ⟨1, 5, 0x80000080100d06a808, 0x49f010⟩,
  ⟨1, 5, 0x80000080100d06a808, 0x49f410⟩,
  ⟨1, 5, 0x80000080100d06a808, 0x49f810⟩,
  ⟨1, 5, 0x80000080100d06a808, 0x49fc10⟩,
  ⟨1, 5, 0x80000080100d06a808, 0x4a0010⟩,
  ⟨1, 5, 0x80000080100d06a808, 0x4a1010⟩,
  ⟨1, 5, 0x80000080100d06a808, 0x4a2410⟩,
  ⟨1, 5, 0x80000080100d06a808, 0x4a3410⟩,
  ⟨1, 5, 0x80000080100d06a808, 0x4a4010⟩,
  ⟨1, 5, 0x80000080100d06a808, 0x4a4410⟩,
  ⟨1, 5, 0x80000080100d06a808, 0x4a4810⟩,
  ⟨1, 5, 0x80000080100d06a808, 0x4a5810⟩,
  ⟨1, 5, 0x80000080100d06a808, 0x4a6410⟩,
  ⟨1, 5, 0x80000080100d06a808, 0x4a6810⟩,
  ⟨1, 5, 0x80000080100d06a808, 0x4a6c10⟩,
  ⟨1, 5, 0x80000080100d06a808, 0x4a7010⟩,
  ⟨1, 5, 0x80000080100d06a808, 0x4a7410⟩,
  ⟨1, 5, 0x80000080100d06a808, 0x4a8010⟩,
  ⟨1, 5, 0x80000080100d06a808, 0x4a8410⟩,
  ⟨1, 5, 0x80000080100d06a808, 0x4a8810⟩,
  ⟨1, 5, 0x80000080100d06a808, 0x4a9810⟩,
  ⟨1, 5, 0x80000080100d06a808, 0x4aa410⟩,
  ⟨1, 5, 0x80000080100d06a808, 0x4aa810⟩,
  ⟨1, 5, 0x80000080100d06a808, 0x4aac10⟩,
  ⟨1, 5, 0x80000080100d06a808, 0x4abc10⟩,
  ⟨1, 5, 0x80000080100d06a808, 0x4ad010⟩,
  ⟨1, 5, 0x80000080100d06a808, 0x4ae010⟩,
  ⟨1, 5, 0x80000080100d06a808, 0x4aec10⟩]

/-- States 3968 to 4031. -/
def states3968 : List PackedRow := [
  ⟨1, 5, 0x80000080100d06a808, 0x4af010⟩,
  ⟨1, 5, 0x80000080100d06a808, 0x4af410⟩,
  ⟨1, 5, 0x80000080100d06a808, 0x4b0410⟩,
  ⟨1, 5, 0x80000080100d06a808, 0x4b1010⟩,
  ⟨1, 5, 0x80000080100d06a808, 0x4b1410⟩,
  ⟨1, 5, 0x80000080100d06a808, 0x4b1810⟩,
  ⟨1, 5, 0x80000080100d06a808, 0x4b1c10⟩,
  ⟨1, 5, 0x80000080100d06a808, 0x4b2010⟩,
  ⟨1, 5, 0x80000080100d06a808, 0x4b2c10⟩,
  ⟨1, 5, 0x80000080100d06a808, 0x4b3010⟩,
  ⟨1, 5, 0x80000080100d06a808, 0x4b3410⟩,
  ⟨1, 5, 0x80000080100d06a808, 0x4b3810⟩,
  ⟨1, 5, 0x80000080100d06a808, 0x4b3c10⟩,
  ⟨1, 5, 0x800000829c44, 0x0⟩,
  ⟨8, 2, 0x800000459c01032c02, 0x527c0030d8013f5402⟩,
  ⟨1, 5, 0x800000829c44, 0x0⟩,
  ⟨1, 5, 0x800000828844, 0x0⟩,
  ⟨1, 5, 0x800000828844, 0x0⟩,
  ⟨1, 5, 0x800000891c44, 0x0⟩,
  ⟨8, 2, 0x800000459c01031c02, 0x4eec00386001516002⟩,
  ⟨8, 2, 0x800000459c01032802, 0x517800327001397002⟩,
  ⟨1, 5, 0x80000081e044, 0x0⟩,
  ⟨1, 5, 0x80000081e044, 0x0⟩,
  ⟨1, 5, 0x80000081e044, 0x0⟩,
  ⟨1, 5, 0x80000081e044, 0x0⟩,
  ⟨1, 5, 0x80000081e044, 0x0⟩,
  ⟨1, 5, 0x80000081e044, 0x0⟩,
  ⟨1, 5, 0x80000081e044, 0x0⟩,
  ⟨1, 5, 0x80000081e044, 0x0⟩,
  ⟨1, 5, 0x80000080140d06a808, 0x4b4010⟩,
  ⟨1, 5, 0x80000080140d06a808, 0x4b4810⟩,
  ⟨1, 5, 0x80000080140d06a808, 0x4b4c10⟩,
  ⟨1, 5, 0x80000080140d06a808, 0x4b5010⟩,
  ⟨1, 5, 0x80000080140d06a808, 0x4b5410⟩,
  ⟨1, 5, 0x80000080140d06a808, 0x4b5810⟩,
  ⟨1, 5, 0x80000080140d06a808, 0x4b6410⟩,
  ⟨1, 5, 0x80000080140d06a808, 0x4b6810⟩,
  ⟨1, 5, 0x80000080140d06a808, 0x4b6c10⟩,
  ⟨1, 5, 0x80000080140d06a808, 0x4b7010⟩,
  ⟨1, 5, 0x80000080140d06a808, 0x4b7410⟩,
  ⟨1, 5, 0x80000080140d06a808, 0x4b7810⟩,
  ⟨1, 5, 0x80000080140d06a808, 0x4b7c10⟩,
  ⟨1, 5, 0x80000080140d06a808, 0x4b8810⟩,
  ⟨1, 5, 0x80000080140d06a808, 0x4b8c10⟩,
  ⟨1, 5, 0x80000080140d06a808, 0x4b9010⟩,
  ⟨1, 5, 0x80000080140d06a808, 0x4ba010⟩,
  ⟨1, 5, 0x80000080140d06a808, 0x4bac10⟩,
  ⟨1, 5, 0x80000080140d06a808, 0x4bb010⟩,
  ⟨1, 5, 0x80000080140d06a808, 0x4bb410⟩,
  ⟨1, 5, 0x80000080140d06a808, 0x4bc010⟩,
  ⟨1, 5, 0x80000080140d06a808, 0x4bc410⟩,
  ⟨1, 5, 0x80000080140d06a808, 0x4bc810⟩,
  ⟨1, 5, 0x80000080140d06a808, 0x4bcc10⟩,
  ⟨1, 5, 0x80000080140d06a808, 0x4bd010⟩,
  ⟨1, 5, 0x80000080140d06a808, 0x4bdc10⟩,
  ⟨1, 5, 0x80000080140d06a808, 0x4be010⟩,
  ⟨1, 5, 0x80000080140d06a808, 0x4be410⟩,
  ⟨1, 5, 0x80000080140d06a808, 0x4be810⟩,
  ⟨1, 5, 0x80000080140d06a808, 0x4bec10⟩,
  ⟨1, 5, 0x80000080140d06a808, 0x4bf010⟩,
  ⟨1, 5, 0x80000080140d06a808, 0x4bf410⟩,
  ⟨1, 5, 0x80000080140d06a808, 0x4c0010⟩,
  ⟨1, 5, 0x80000080140d06a808, 0x4c0410⟩,
  ⟨1, 5, 0x80000080140d06a808, 0x4c0810⟩]

/-- States 4032 to 4095. -/
def states4032 : List PackedRow := [
  ⟨1, 5, 0x80000080140d06a808, 0x4c0c10⟩,
  ⟨1, 5, 0x80000080140d06a808, 0x4c1010⟩,
  ⟨1, 5, 0x80000080140d06a808, 0x4c1c10⟩,
  ⟨1, 5, 0x80000080140d06a808, 0x4c2010⟩,
  ⟨1, 5, 0x80000080140d06a808, 0x4c2410⟩,
  ⟨1, 5, 0x80000080140d06a808, 0x4c3410⟩,
  ⟨1, 5, 0x80000080140d06a808, 0x4c4010⟩,
  ⟨1, 5, 0x80000080140d06a808, 0x4c4410⟩,
  ⟨1, 5, 0x80000080140d06a808, 0x4c4810⟩,
  ⟨1, 5, 0x80000080140d06a808, 0x4c5410⟩,
  ⟨1, 5, 0x80000080140d06a808, 0x4c5810⟩,
  ⟨1, 5, 0x80000080140d06a808, 0x4c5c10⟩,
  ⟨1, 5, 0x80000080140d06a808, 0x4c6010⟩,
  ⟨1, 5, 0x80000080140d06a808, 0x4c6410⟩,
  ⟨1, 5, 0x80000080140d06a808, 0x4c7010⟩,
  ⟨1, 5, 0x80000080140d06a808, 0x4c7410⟩,
  ⟨1, 5, 0x80000080140d06a808, 0x4c7810⟩,
  ⟨1, 5, 0x80000080140d06a808, 0x4c7c10⟩,
  ⟨1, 5, 0x80000080140d06a808, 0x4c8010⟩,
  ⟨1, 5, 0x80000080140d06a808, 0x4c8410⟩,
  ⟨1, 5, 0x80000080140d06a808, 0x4c8810⟩,
  ⟨1, 5, 0x80000082a044, 0x0⟩,
  ⟨8, 2, 0x800000459c01032c02, 0x527c0030d8013ff802⟩,
  ⟨1, 5, 0x80000082a044, 0x0⟩,
  ⟨1, 5, 0x80000083c044, 0x0⟩,
  ⟨1, 5, 0x80000083c044, 0x0⟩,
  ⟨1, 5, 0x80000081e444, 0x0⟩,
  ⟨1, 5, 0x80000081e444, 0x0⟩,
  ⟨1, 5, 0x80000081e444, 0x0⟩,
  ⟨1, 5, 0x80000081e444, 0x0⟩,
  ⟨1, 5, 0x80000081e444, 0x0⟩,
  ⟨1, 5, 0x80000081e444, 0x0⟩,
  ⟨1, 5, 0x80000081e444, 0x0⟩,
  ⟨1, 5, 0x80000081e444, 0x0⟩,
  ⟨1, 5, 0x800000801c0d06a808, 0x4c8c10⟩,
  ⟨8, 2, 0x800000459c01032802, 0x517800327001397c02⟩,
  ⟨1, 5, 0x800000801c0d06a808, 0x4c9010⟩,
  ⟨1, 5, 0x800000801c0d06a808, 0x4c9410⟩,
  ⟨1, 5, 0x800000801c0d06a808, 0x4c9810⟩,
  ⟨1, 5, 0x800000801c0d06a808, 0x4c9c10⟩,
  ⟨1, 5, 0x800000801c0d06a808, 0x4ca810⟩,
  ⟨1, 5, 0x800000801c0d06a808, 0x4cac10⟩,
  ⟨1, 5, 0x800000801c0d06a808, 0x4cb010⟩,
  ⟨1, 5, 0x800000801c0d06a808, 0x4cb410⟩,
  ⟨1, 5, 0x800000801c0d06a808, 0x4cb810⟩,
  ⟨1, 5, 0x800000801c0d06a808, 0x4cbc10⟩,
  ⟨1, 5, 0x800000801c0d06a808, 0x4cc010⟩,
  ⟨1, 5, 0x800000801c0d06a808, 0x4cc410⟩,
  ⟨1, 5, 0x800000801c0d06a808, 0x4cc810⟩,
  ⟨1, 5, 0x800000801c0d06a808, 0x4ccc10⟩,
  ⟨1, 5, 0x800000801c0d06a808, 0x4cd010⟩,
  ⟨1, 5, 0x800000801c0d06a808, 0x4cd410⟩,
  ⟨1, 5, 0x800000801c0d06a808, 0x4cd810⟩,
  ⟨1, 5, 0x800000801c0d06a808, 0x4ce410⟩,
  ⟨1, 5, 0x800000801c0d06a808, 0x4ce810⟩,
  ⟨1, 5, 0x800000801c0d06a808, 0x4cec10⟩,
  ⟨1, 5, 0x800000801c0d06a808, 0x4cf010⟩,
  ⟨1, 5, 0x800000801c0d06a808, 0x4cf410⟩,
  ⟨1, 5, 0x800000801c0d06a808, 0x4cf810⟩,
  ⟨1, 5, 0x800000801c0d06a808, 0x4cfc10⟩,
  ⟨1, 5, 0x800000801c0d06a808, 0x4d0010⟩,
  ⟨1, 5, 0x800000801c0d06a808, 0x4d0410⟩,
  ⟨1, 5, 0x80000082a444, 0x0⟩,
  ⟨8, 2, 0x800000459c01032c02, 0x527c0030d801401802⟩]

end JsxDetect.Automaton
