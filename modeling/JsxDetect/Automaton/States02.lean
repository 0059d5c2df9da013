import JsxDetect.Automaton.Packed

/-!
# Parsing automaton: states 1024 to 1535

Packed rows; see `PackedRow` for the layout.
-/

namespace JsxDetect.Automaton

/-- States 1024 to 1087. -/
def states1024 : List PackedRow := [
  ⟨8, 2, 0x5678321000385464375460220ffc230ef826176c2f17684042700680000016703a459c015670160ff4150ff012436c0b4494054490040ddc0301b80217642834a43514ac3b46180c176020167407, 0x4f7800177c1b17641e17b41a2b441d4e34192b20182b1c1716781654700117681457b415461c03⟩,
  ⟨8, 2, 0x56783210003856743758b4220ffc230ff826176c2f17684042700680000016703a459c015670160ff4150ff01245140b4494054490040ddc0301b80217642834a43514ac3b46180c176020167407, 0x535000177c1b17641e17781a17741d181819177018167c17167816567c0117681457b4154e2003⟩,
  ⟨8, 2, 0x56783210003856743758b4220ffc230ff826176c2f17684042700680000016703a459c015670160ff4150ff01245140b4494054490040ddc0301b80217642834a43514ac3b46180c176020167407, 0x535000177c1b17641e17781a17741d181c19177018167c17167816567c0117681457b4154e2003⟩,
  ⟨8, 2, 0x56783210003856743758b4220ffc230ff826176c2f17684042700680000016703a459c015670160ff4150ff01245140b4494054490040ddc0301b80217642834a43514ac3b46180c176020167407, 0x535000177c1b17641e17781a17741d185019177018167c17167816567c0117681457b4154e2003⟩,
  ⟨8, 2, 0x56783210003856743758b4220ffc230ff826176c2f17684042700680000016703a459c015670160ff4150ff01245140b4494054490040ddc0301b80217642834a43514ac3b46180c176020167407, 0x535000177c1b17641e17781a17741d185419177018167c17167816567c0117681457b4154e2003⟩,
  ⟨8, 2, 0x56783210003856743758b4220ffc230ff826176c2f17684042700680000016703a459c015670160ff4150ff01245140b4494054490040ddc0301b80217642834a43514ac3b46180c176020167407, 0x535000177c1b17641e17781a17741d186c19177018167c17167816567c0117681457b4154e2003⟩,
  ⟨8, 2, 0x56783210003856743758b4220ffc230ff826176c2f17684042700680000016703a459c015670160ff4150ff01245140b4494054490040ddc0301b80217642834a43514ac3b46180c176020167407, 0x535000177c1b17641e17781a17741d187019177018167c17167816567c0117681457b4154e2003⟩,
  ⟨8, 2, 0x56783210003856743758b4220ffc230ff826176c2f17684042700680000016703a459c015670160ff4150ff01245140b4494054490040ddc0301b80217642834a43514ac3b46180c176020167407, 0x535000177c1b17641e17781a17741d187819177018167c17167816567c0117681457b4154e2003⟩,
  ⟨8, 2, 0x56783210003856743758b4220ffc230ff826176c2f17684042700680000016703a459c015670160ff4150ff01245140b4494054490040ddc0301b80217642834a43514ac3b46180c176020167407, 0x535000177c1b17641e17781a17741d187c19177018167c17167816567c0117681457b4154e2003⟩,
  ⟨8, 2, 0x56bc3210343856b83758bc22103023102c2632a42f32a04042780680000030e03a459c0156b416102815102412451c0b44e40544e0040de00301bc02329c2834ac3514b03b46180c3298202f0007, 0x535c0032b01b329c1e32ac1a32a81d32c01930e4182f041730281656c00132a01457f0154e4403⟩,
  ⟨8, 2, 0x56bc3210343856b83758bc22103023102c2632a42f32a04042780680000030e03a459c0156b416102815102412451c0b44e40544e0040de00301bc02329c2834ac3514b03b46180c3298202f0007, 0x535c0032b01b329c1e32ac1a32a81d32c41930e4182f041730281656c00132a01457f0154e4403⟩,
  ⟨8, 2, 0x56bc3210343856b83758bc22103023102c2632a42f32a04042780680000030e03a459c0156b416102815102412451c0b44e40544e0040de00301bc02329c2834ac3514b03b46180c3298202f0007, 0x535c0032b01b329c1e32ac1a32a81d32d01930e4182f041730281656c00132a01457f0154e4403⟩,
  ⟨8, 2, 0x56bc321034385464375460221030230ef82632a42f32a04042780680000030e03a459c0156b416102815102412436c0b44e40544e0040de00301bc02329c2834ac3514b03b46180c3298202f0007, 0x4f780032b01b329c1e32d41a2b441d4e54192b20182b1c1730281654700132a01457f015461c03⟩,
  ⟨8, 2, 0x56bc321034385464375460221030230ef82632a42f32a04042780680000030e03a459c0156b416102815102412436c0b44e40544e0040de00301bc02329c2834ac3514b03b46180c3298202f0007, 0x4f780032b01b329c1e32dc1a2b441d4e54192b20182b1c1730281654700132a01457f015461c03⟩,
  ⟨8, 2, 0x56bc3210343856b83758bc22103023102c2632a42f32a04042780680000030e03a459c0156b416102815102412451c0b44e40544e0040de00301bc02329c2834ac3514b03b46180c3298202f0007, 0x535c0032b01b329c1e32ac1a32a81d330c1930e4182f041730281656c00132a01457f0154e4403⟩,
  ⟨8, 2, 0x56bc3210343856b83758bc22103023102c2632a42f32a04042780680000030e03a459c0156b416102815102412451c0b44e40544e0040de00301bc02329c2834ac3514b03b46180c3298202f0007, 0x535c0032b01b329c1e32ac1a32a81d33101930e4182f041730281656c00132a01457f0154e4403⟩,
  ⟨8, 2, 0x56bc3210343856b83758bc22103023102c2632a42f32a04042780680000030e03a459c0156b416102815102412451c0b44e40544e0040de00301bc02329c2834ac3514b03b46180c3298202f0007, 0x535c0032b01b329c1e32ac1a32a81d332c1930e4182f041730281656c00132a01457f0154e4403⟩,
  ⟨8, 2, 0x56bc3210343856b83758bc22103023102c2632a42f32a04042780680000030e03a459c0156b416102815102412451c0b44e40544e0040de00301bc02329c2834ac3514b03b46180c3298202f0007, 0x535c0032b01b329c1e32ac1a32a81d33301930e4182f041730281656c00132a01457f0154e4403⟩,
  ⟨8, 2, 0x56bc3210343856b83758bc22103023102c2632a42f32a04042780680000030e03a459c0156b416102815102412451c0b44e40544e0040de00301bc02329c2834ac3514b03b46180c3298202f0007, 0x535c0032b01b329c1e32ac1a32a81d334c1930e4182f041730281656c00132a01457f0154e4403⟩,
  ⟨8, 2, 0x56bc3210343856b83758bc22103023102c2632a42f32a04042780680000030e03a459c0156b416102815102412451c0b44e40544e0040de00301bc02329c2834ac3514b03b46180c3298202f0007, 0x535c0032b01b329c1e32ac1a32a81d33501930e4182f041730281656c00132a01457f0154e4403⟩,
  ⟨8, 2, 0x56bc3210343856b83758bc22103023102c2632a42f32a04042780680000030e03a459c0156b416102815102412451c0b44e40544e0040de00301bc02329c2834ac3514b03b46180c3298202f0007, 0x535c0032b01b329c1e32ac1a32a81d33581930e4182f041730281656c00132a01457f0154e4403⟩,
  ⟨8, 2, 0x56bc3210343856b83758bc22103023102c2632a42f32a04042780680000030e03a459c0156b416102815102412451c0b44e40544e0040de00301bc02329c2834ac3514b03b46180c3298202f0007, 0x535c0032b01b329c1e32ac1a32a81d335c1930e4182f041730281656c00132a01457f0154e4403⟩,
  ⟨8, 2, 0x56783210003856743758b4220ffc230ff826176c2f17684042700680000016703a459c015670160ff4150ff01245140b4494054490040ddc0301b80216c42834a43514ac3b46180c176020167407, 0x535000177c1b17641e17781a17741d16c819177018167c17167816567c0117681457b4154e2003⟩,
  ⟨8, 2, 0x56783210003856743758b4220ffc230ff826176c2f17684042700680000016703a459c015670160ff4150ff01245140b4494054490040ddc0301b80217642834a43514ac3b46180c176020167407, 0x535000177c1b17641e17781a17741d16f819177018167c17167816567c0117681457b4154e2003⟩,
  ⟨8, 2, 0x5468320f00385464375460220efc230ef8262b402f2b3c403afc068000002b183a459c01545c160ef4150ef012436c0b44b40544b0040c5403019c022b3828343435147c3b46180c2b34202ab007, 0x4f78002b4c1b2b381e2b481a2b441d315c1930ac182e50172ab8165470012b3c14546c15461c03⟩,
  ⟨8, 2, 0x546832107438582c3758d022107023106c262b402f2b3c403afc068000002b183a459c01545c1610681510641245240b44d40544d0040c5403019c022b382834c83514b43b46180c2b34202ab007, 0x5370002b4c1b2b381e2b481a2b441d2b58192b20183424172ab8165744012b3c14546c154eb003⟩,
  ⟨8, 2, 0x546832107438582c3758d022107023106c262b402f2b3c403afc068000002b183a459c01545c1610681510641245240b44d40544d0040c5403019c022b382834c83514b43b46180c2b34202ab007, 0x5370002b4c1b2b381e2b481a2b441d3a78192b20183424172ab8165744012b3c14546c154eb003⟩,
  ⟨8, 2, 0x546832107438582c3758d022107023106c262b402f2b3c403afc068000002b183a459c01545c1610681510641245240b44d40544d0040c5403019c022b382834c83514b43b46180c2b34202ab007, 0x5370002b4c1b2b381e2b481a2b441d3a7c192b20183424172ab8165744012b3c14546c154eb003⟩,
  ⟨8, 2, 0x5468321074385464375460221070230ef8262b402f2b3c403afc068000002b183a459c01545c16106815106412436c0b44d40544d0040c5403019c022b382834c83514b43b46180c2b34202ab007, 0x4f78002b4c1b2b381e2b681a2b441d4eac192b20182b1c172ab8165470012b3c14546c15461c03⟩,
  ⟨8, 2, 0x5468321074385464375460221070230ef8262b402f2b3c403afc068000002b183a459c01545c16106815106412436c0b44d40544d0040c5403019c022b382834c83514b43b46180c2b34202ab007, 0x4f78002b4c1b2b381e2b6c1a2b441d4eac192b20182b1c172ab8165470012b3c14546c15461c03⟩,
  ⟨8, 2, 0x546832107438582c3758d022107023106c262b402f2b3c403afc068000002b183a459c01545c1610681510641245240b44d40544d0040c5403019c022b382834c83514b43b46180c2b34202ab007, 0x5370002b4c1b2b381e2b481a2b441d2b98192b20183424172ab8165744012b3c14546c154eb003⟩,
  ⟨8, 2, 0x546832107438582c3758d022107023106c262b402f2b3c403afc068000002b183a459c01545c1610681510641245240b44d40544d0040c5403019c022b382834c83514b43b46180c2b34202ab007, 0x5370002b4c1b2b381e2b481a2b441d39e4192b20183424172ab8165744012b3c14546c154eb003⟩,
  ⟨8, 2, 0x546832107438582c3758d022107023106c262b402f2b3c403afc068000002b183a459c01545c1610681510641245240b44d40544d0040c5403019c022b382834c83514b43b46180c2b34202ab007, 0x5370002b4c1b2b381e2b481a2b441d39e8192b20183424172ab8165744012b3c14546c154eb003⟩,
  ⟨8, 2, 0x546832107438582c3758d022107023106c262b402f2b3c403afc068000002b183a459c01545c1610681510641245240b44d40544d0040c5403019c022b382834c83514b43b46180c2b34202ab007, 0x5370002b4c1b2b381e2b481a2b441d39ec192b20183424172ab8165744012b3c14546c154eb003⟩,
  ⟨8, 2, 0x546832107438582c3758d022107023106c262b402f2b3c403afc068000002b183a459c01545c1610681510641245240b44d40544d0040c5403019c022b382834c83514b43b46180c2b34202ab007, 0x5370002b4c1b2b381e2b481a2b441d2bb8192b20183424172ab8165744012b3c14546c154eb003⟩,
  ⟨8, 2, 0x546832107438582c3758d022107023106c262b402f2b3c403afc068000002b183a459c01545c1610681510641245240b44d40544d0040c5403019c022b382834c83514b43b46180c2b34202ab007, 0x5370002b4c1b2b381e2b481a2b441d39f8192b20183424172ab8165744012b3c14546c154eb003⟩,
  ⟨8, 2, 0x546832107438582c3758d022107023106c262b402f2b3c403afc068000002b183a459c01545c1610681510641245240b44d40544d0040c5403019c022b382834c83514b43b46180c2b34202ab007, 0x5370002b4c1b2b381e2b481a2b441d2bc8192b20183424172ab8165744012b3c14546c154eb003⟩,
  ⟨8, 2, 0x546832107438582c3758d022107023106c262b402f2b3c403afc068000002b183a459c01545c1610681510641245240b44d40544d0040c5403019c022b382834c83514b43b46180c2b34202ab007, 0x5370002b4c1b2b381e2b481a2b441d2bcc192b20183424172ab8165744012b3c14546c154eb003⟩,
  ⟨8, 2, 0x546832107438582c3758d022107023106c262b402f2b3c403afc068000002b183a459c01545c1610681510641245240b44d40544d0040c5403019c022b382834c83514b43b46180c2b34202ab007, 0x5370002b4c1b2b381e2b481a2b441d2bd0192b20183424172ab8165744012b3c14546c154eb003⟩,
  ⟨8, 2, 0x546832107438582c3758d022107023106c262b402f2b3c403afc068000002b183a459c01545c1610681510641245240b44d40544d0040c5403019c022b382834c83514b43b46180c2b34202ab007, 0x5370002b4c1b2b381e2b481a2b441d3a0c192b20183424172ab8165744012b3c14546c154eb003⟩,
  ⟨8, 2, 0x5604320fc43856003758a4220fc0230fbc262f642f2f6040425c068000002ee03a459c0155fc160fb8150fb412450c0b4428054424040dd80301b4022f5c28349c3514a83b46180c2f58202d0007, 0x5344002f701b2f5c1e2f6c1a2f681d3020192ee4182d04172d90165608012f60145794154dec03⟩,
  ⟨8, 2, 0x5604320fc43856003758a4220fc0230fbc262f642f2f6040425c068000002ee03a459c0155fc160fb8150fb412450c0b4428054424040dd80301b4022f5c28349c3514a83b46180c2f58202d0007, 0x5344002f701b2f5c1e2f6c1a2f681d3024192ee4182d04172d90165608012f60145794154dec03⟩,
  ⟨8, 2, 0x56783210003856743758b4220ffc230ff826176c2f17684042700680000016703a459c015670160ff4150ff01245140b4494054490040ddc0301b80217642834a43514ac3b46180c176020167407, 0x535000177c1b17641e17781a17741d188419177018167c17167816567c0117681457b4154e2003⟩,
  ⟨8, 2, 0x56783210003856743758b4220ffc230ff826176c2f17684042700680000016703a459c015670160ff4150ff01245140b4494054490040ddc0301b80217642834a43514ac3b46180c176020167407, 0x535000177c1b17641e17781a17741d188819177018167c17167816567c0117681457b4154e2003⟩,
  ⟨8, 2, 0x5468320f00385464375460220efc230ef8262b402f2b3c403afc068000002b183a459c01545c160ef4150ef012436c0b44b40544b0040c5403019c022b3828343435147c3b46180c2b34202ab007, 0x4f78002b4c1b2b381e2b481a2b441d39c8192b20182b1c172ab8165470012b3c14546c15461c03⟩,
  ⟨8, 2, 0x5604320fc43856003758a4220fc0230fbc262f642f2f6040425c068000002ee03a459c0155fc160fb8150fb412450c0b4428054424040dd80301b4022f5c28349c3514a83b46180c2f58202d0007, 0x5344002f701b2f5c1e2f6c1a2f681d4208192ee4182d04172d90165608012f60145794154dec03⟩,
  ⟨8, 2, 0x5604320fc43856003758a4220fc0230fbc262f642f2f6040425c068000002ee03a459c0155fc160fb8150fb412450c0b4428054424040dd80301b4022f5c28349c3514a83b46180c2f58202d0007, 0x5344002f701b2f5c1e2f6c1a2f681d4228192ee4182d04172d90165608012f60145794154dec03⟩,
  ⟨8, 2, 0x546832111c3858d43758e4221118231114262b402f2b3c403afc068000002b183a459c01545c16111015110c1245400b44b40544b0040c5403019c022b3828343435147c3b46180c2b34202ab007, 0x5388002b4c1b2b381e2b481a2b441d2b98192b20183110172ab8165830012b3c14546c154ea803⟩,
  ⟨8, 2, 0x546832111c3858d43758e4221118231114262b402f2b3c403afc068000002b183a459c01545c16111015110c1245400b44b40544b0040c5403019c022b3828343435147c3b46180c2b34202ab007, 0x5388002b4c1b2b381e2b481a2b441d381c192b20183110172ab8165830012b3c14546c154ea803⟩,
  ⟨8, 2, 0x546832111c3858d43758e4221118231114262b402f2b3c403afc068000002b183a459c01545c16111015110c1245400b44b40544b0040c5403019c022b3828343435147c3b46180c2b34202ab007, 0x5388002b4c1b2b381e2b481a2b441d3820192b20183110172ab8165830012b3c14546c154ea803⟩,
  ⟨8, 2, 0x546832111c3858d43758e4221118231114262b402f2b3c403afc068000002b183a459c01545c16111015110c1245400b44b40544b0040c5403019c022b3828343435147c3b46180c2b34202ab007, 0x5388002b4c1b2b381e2b481a2b441d3824192b20183110172ab8165830012b3c14546c154ea803⟩,
  ⟨8, 2, 0x546832111c3858d43758e4221118231114262b402f2b3c403afc068000002b183a459c01545c16111015110c1245400b44b40544b0040c5403019c022b3828343435147c3b46180c2b34202ab007, 0x5388002b4c1b2b381e2b481a2b441d2bb8192b20183110172ab8165830012b3c14546c154ea803⟩,
  ⟨8, 2, 0x546832111c3858d43758e4221118231114262b402f2b3c403afc068000002b183a459c01545c16111015110c1245400b44b40544b0040c5403019c022b3828343435147c3b46180c2b34202ab007, 0x5388002b4c1b2b381e2b481a2b441d3828192b20183110172ab8165830012b3c14546c154ea803⟩,
  ⟨8, 2, 0x5604320fc43856003758a4220fc0230fbc262f642f2f6040425c068000002ee03a459c0155fc160fb8150fb412450c0b4428054424040dd80301b4022f5c28349c3514a83b46180c2f58202d0007, 0x5344002f701b2f5c1e2f6c1a2f681d4240192ee4182d04172d90165608012f60145794154dec03⟩,
  ⟨8, 2, 0x546832111c3858d43758e4221118231114262b402f2b3c403afc068000002b183a459c01545c16111015110c1245400b44b40544b0040c5403019c022b3828343435147c3b46180c2b34202ab007, 0x5388002b4c1b2b381e2b481a2b441d2bc8192b20183110172ab8165830012b3c14546c154ea803⟩,
  ⟨8, 2, 0x546832111c3858d43758e4221118231114262b402f2b3c403afc068000002b183a459c01545c16111015110c1245400b44b40544b0040c5403019c022b3828343435147c3b46180c2b34202ab007, 0x5388002b4c1b2b381e2b481a2b441d2bcc192b20183110172ab8165830012b3c14546c154ea803⟩,
  ⟨8, 2, 0x5468320f00385464375460220efc230ef8262b402f2b3c403afc068000002b183a459c01545c160ef4150ef012436c0b44b40544b0040c5403019c022b3828343435147c3b46180c2b34202ab007, 0x4f78002b4c1b2b381e2b481a2b441d446c192b20182b1c172ab8165470012b3c14546c15461c03⟩,
  ⟨8, 2, 0x546832111c3858d43758e4221118231114262b402f2b3c403afc068000002b183a459c01545c16111015110c1245400b44b40544b0040c5403019c022b3828343435147c3b46180c2b34202ab007, 0x5388002b4c1b2b381e2b481a2b441d2bd0192b20183110172ab8165830012b3c14546c154ea803⟩,
  ⟨8, 2, 0x546832111c3858d43758e4221118231114262b402f2b3c403afc068000002b183a459c01545c16111015110c1245400b44b40544b0040c5403019c022b3828343435147c3b46180c2b34202ab007, 0x5388002b4c1b2b381e2b481a2b441d3830192b20183110172ab8165830012b3c14546c154ea803⟩,
  ⟨8, 2, 0x5468320f00385464375460220efc230ef8262b402f2b3c403afc068000002b183a459c01545c160ef4150ef012436c0b44b40544b0040c5403019c022b3828343435147c3b46180c2b34202ab007, 0x4f78002b4c1b2b381e2b481a2b441d3a10192b20182b1c172ab8165470012b3c14546c15461c03⟩,
  ⟨8, 2, 0x5468320f00385464375460220efc230ef8262b402f2b3c403afc068000002b183a459c01545c160ef4150ef012436c0b44b40544b0040c5403019c022b3828343435147c3b46180c2b34202ab007, 0x4f78002b4c1b2b381e2b481a2b441d448c192b20182b1c172ab8165470012b3c14546c15461c03⟩,
  ⟨8, 2, 0x5468320f00385464375460220efc230ef8262b402f2b3c403afc068000002b183a459c01545c160ef4150ef012436c0b44b40544b0040c5403019c022b3828343435147c3b46180c2b34202ab007, 0x4f78002b4c1b2b381e2b481a2b441d3a24192b20182b1c172ab8165470012b3c14546c15461c03⟩,
  ⟨8, 2, 0x5468320f00385464375460220efc230ef8262b402f2b3c403afc068000002b183a459c01545c160ef4150ef012436c0b44b40544b0040c5403019c022b3828343435147c3b46180c2b34202ab007, 0x4f78002b4c1b2b381e2b481a2b441d44ac192b20182b1c172ab8165470012b3c14546c15461c03⟩,
  ⟨8, 2, 0x5468320f00385464375460220efc230ef8262b402f2b3c403afc068000002b183a459c01545c160ef4150ef012436c0b44b40544b0040c5403019c022b3828343435147c3b46180c2b34202ab007, 0x4f78002b4c1b2b381e2b481a2b441d3a38192b20182b1c172ab8165470012b3c14546c15461c03⟩]

/-- States 1088 to 1151. -/
def states1088 : List PackedRow := [
  ⟨8, 2, 0x5468320f00385464375460220efc230ef8262b402f2b3c403afc068000002b183a459c01545c160ef4150ef012436c0b44b40544b0040c5403019c022b3828343435147c3b46180c2b34202ab007, 0x4f78002b4c1b2b381e2b481a2b441d44cc192b20182b1c172ab8165470012b3c14546c15461c03⟩,
  ⟨8, 2, 0x5468320f00385464375460220efc230ef8262b402f2b3c403afc068000002b183a459c01545c160ef4150ef012436c0b44b40544b0040c5403019c022b3828343435147c3b46180c2b34202ab007, 0x4f78002b4c1b2b381e2b481a2b441d3a4c192b20182b1c172ab8165470012b3c14546c15461c03⟩,
  ⟨8, 2, 0x5468320f00385464375460220efc230ef8262b402f2b3c403afc068000002b183a459c01545c160ef4150ef012436c0b44b40544b0040c5403019c022b3828343435147c3b46180c2b34202ab007, 0x4f78002b4c1b2b381e2b481a2b441d3a60192b20182b1c172ab8165470012b3c14546c15461c03⟩,
  ⟨8, 2, 0x546832111c3858d43758e4221118231114262b402f2b3c403afc068000002b183a459c01545c16111015110c1245400b44b40544b0040c5403019c022b3828343435147c3b46180c2b34202ab007, 0x5388002b4c1b2b381e2b481a2b441d2b58192b20183110172ab8165830012b3c14546c154ea803⟩,
  ⟨8, 2, 0x546832111c3858d43758e4221118231114262b402f2b3c403afc068000002b183a459c01545c16111015110c1245400b44b40544b0040c5403019c022b3828343435147c3b46180c2b34202ab007, 0x5388002b4c1b2b381e2b481a2b441d3848192b20183110172ab8165830012b3c14546c154ea803⟩,
  ⟨8, 2, 0x546832111c3858d43758e4221118231114262b402f2b3c403afc068000002b183a459c01545c16111015110c1245400b44b40544b0040c5403019c022b3828343435147c3b46180c2b34202ab007, 0x5388002b4c1b2b381e2b481a2b441d384c192b20183110172ab8165830012b3c14546c154ea803⟩,
  ⟨8, 2, 0x546832111c385464375460221118230ef8262b402f2b3c403afc068000002b183a459c01545c16111015110c12436c0b44b40544b0040c5403019c022b3828343435147c3b46180c2b34202ab007, 0x4f78002b4c1b2b381e2b681a2b441d4ebc192b20182b1c172ab8165470012b3c14546c15461c03⟩,
  ⟨8, 2, 0x546832111c385464375460221118230ef8262b402f2b3c403afc068000002b183a459c01545c16111015110c12436c0b44b40544b0040c5403019c022b3828343435147c3b46180c2b34202ab007, 0x4f78002b4c1b2b381e2b6c1a2b441d4ebc192b20182b1c172ab8165470012b3c14546c15461c03⟩,
  ⟨8, 2, 0x5468320f00385464375460220efc230ef8262b402f2b3c403afc068000002b183a459c01545c160ef4150ef012436c0b44b40544b0040c5403019c022b3828343435147c3b46180c2b34202ab007, 0x4f78002b4c1b2b381e2b481a2b441d4500192b20182b1c172ab8165470012b3c14546c15461c03⟩,
  ⟨8, 2, 0x546832111c3858d43758e4221118231114262b402f2b3c403afc068000002b183a459c01545c16111015110c1245400b44b40544b0040c5403019c022b3828343435147c3b46180c2b34202ab007, 0x5388002b4c1b2b381e2b481a2b441d452c192b20183110172ab8165830012b3c14546c154ea803⟩,
  ⟨8, 2, 0x5468320f00385464375460220efc230ef8262b402f2b3c403afc068000002b183a459c01545c160ef4150ef012436c0b44b40544b0040c5403019c022b3828343435147c3b46180c2b34202ab007, 0x4f78002b4c1b2b381e2b481a2b441d4530192b20182b1c172ab8165470012b3c14546c15461c03⟩,
  ⟨8, 2, 0x546832111c3858d43758e4221118231114262b402f2b3c403afc068000002b183a459c01545c16111015110c1245400b44b40544b0040c5403019c022b3828343435147c3b46180c2b34202ab007, 0x5388002b4c1b2b381e2b481a2b441d4534192b20183110172ab8165830012b3c14546c154ea803⟩,
  ⟨8, 2, 0x546832111c3858d43758e4221118231114262b402f2b3c403afc068000002b183a459c01545c16111015110c1245400b44b40544b0040c5403019c022b3828343435147c3b46180c2b34202ab007, 0x5388002b4c1b2b381e2b481a2b441d4538192b20183110172ab8165830012b3c14546c154ea803⟩,
  ⟨8, 2, 0x546832111c3858d43758e4221118231114262b402f2b3c403afc068000002b183a459c01545c16111015110c1245400b44b40544b0040c5403019c022b3828343435147c3b46180c2b34202ab007, 0x5388002b4c1b2b381e2b481a2b441d453c192b20183110172ab8165830012b3c14546c154ea803⟩,
  ⟨8, 2, 0x546832111c3858d43758e4221118231114262b402f2b3c403afc068000002b183a459c01545c16111015110c1245400b44b40544b0040c5403019c022b3828343435147c3b46180c2b34202ab007, 0x5388002b4c1b2b381e2b481a2b441d4548192b20183110172ab8165830012b3c14546c154ea803⟩,
  ⟨8, 2, 0x546832111c3858d43758e4221118231114262b402f2b3c403afc068000002b183a459c01545c16111015110c1245400b44b40544b0040c5403019c022b3828343435147c3b46180c2b34202ab007, 0x5388002b4c1b2b381e2b481a2b441d454c192b20183110172ab8165830012b3c14546c154ea803⟩,
  ⟨11, 2, 0xa84bc54c422234049233c561bd4431aa826189859455c0f2d4429800000459c0154581606484e2ca80b1aa40e44280544240403640315b846032c021bd03411a82a1fa0092a082015e04d2f0c72, 0x458021457c1f439405527c0029082228a82730d801132c042d44114578403b5c0245743e54480638d437⟩,
  ⟨11, 2, 0xa84bc54c422235049234c561c44431ae026196059455c0f2d4429800000459c0154581606484e2cfc0b1adc0e44280544240403640315b846032c0217183411a82a1fa0092a082015e44d2f1472, 0x4580214d4c1f439405527c0029082228a82730d801132c042d44114d48403b5c0245743e54480638d437⟩,
  ⟨11, 2, 0xa84bc54c422236049235c561c94431b042619ec59455c0f2d4429800000459c0154581606484e2d140b1b000e44280544240403640315b846032c021f483411a82a1fa0092a082015f44d2f1872, 0x4580214d4c1f439405527c0029082228a82730d801132c042d44114d48403b5c0245743e54480638d437⟩,
  ⟨11, 2, 0xa84bc54c4222368492364561c50431afc2619c459455c0f2d4429800000459c0154581606484e2d080b1af80e44280544240403640315b846032c021c703411a82a1fa0092a082015e84d2f1c72, 0x4580214d4c1f439405527c0029082228a82730d801132c042d44114d48403b5c0245743e54480638d437⟩,
  ⟨11, 2, 0xa84bc54c4222368492364561c50431afc2619c459455c0f2d4429800000459c0154581606484e2d080b1af80e44280544240403640315b846032c021f743411a82a1fa0092a082015e84d2f1c72, 0x4580214d4c1f439405527c0029082228a82730d801132c042d44114d48403b5c0245743e54480638d437⟩,
  ⟨11, 2, 0xa84bc54c4222368492364561c50431afc2619c459455c0f2d4429800000459c0154581606484e2d080b1af80e44280544240403640315b846032c021f883411a82a1fa0092a082015e84d2f1c72, 0x4580214d4c1f439405527c0029082228a82730d801132c042d44114d48403b5c0245743e54480638d437⟩,
  ⟨11, 2, 0xa84bc54c422234049233c561bd4431aa826189859455c0f2d4429800000459c0154581606484e2ca80b1aa40e44280544240403640315b846032c0223443411a82a1fa0092a082015e04d2f0c72, 0x458021457c1f439405527c0029082228a82730d801132c042d44114578403b5c0245743e54480638d437⟩,
  ⟨11, 2, 0xa84bc54c422236049235c561c94431b042619ec59455c0f2d4429800000459c0154581606484e2d140b1b000e44280544240403640315b846032c0223543411a82a1fa0092a082015f44d2f1872, 0x4580214d4c1f439405527c0029082228a82730d801132c042d44114d48403b5c0245743e54480638d437⟩,
  ⟨11, 2, 0xa84bc54c422235049234c561c44431ae026196059455c0f2d4429800000459c0154581606484e2cfc0b1adc0e44280544240403640315b846032c021c703411a82a1fa0092a082015e44d2f1472, 0x4580214d4c1f439405527c0029082228a82730d801132c042d44114d48403b5c0245743e54480638d437⟩,
  ⟨11, 2, 0xa84bc54c422237049236c561c9c431b0c2619f459455c0f2d4429800000459c0154581606484e2d1c0b1b080e44280544240403640315b846032c021f883411a82a1fa0092a082016004d2f2072, 0x4580214d4c1f439405527c0029082228a82730d801132c042d44114d48403b5c0245743e54480638d437⟩,
  ⟨11, 2, 0xa84bc54c422235049234c561c44431ae026196059455c0f2d4429800000459c0154581606484e2cfc0b1adc0e44280544240403640315b846032c02255c3411a82a1fa0092a082015e44d2f1472, 0x4580214d4c1f439405527c0029082228a82730d801132c042d44114d48403b5c0245743e54480638d437⟩,
  ⟨11, 2, 0x2f78bc54c4222368492364561c50431afc2619c459455c0f2d4429800000459c0154581606484e2d080b1af80e44280544240403640315c446032c021c783411b02a1fa0092a082015e84d2f1c72, 0x4580214d4c1f439405527c0029082228a82730d801132c042d44114d48403b5c0245743e5448063a1437⟩,
  ⟨7, 3, 0x80000080082b05a02544940544900407c008800458175007, 0x19c830175814175415⟩,
  ⟨6, 4, 0x800c2380000080082b0510254474054470048038248044771d6c34069c08800497036c07, 0x45d82145d41f03a830037414037015⟩,
  ⟨7, 4, 0x800c2380000080082b051025037c038038248044771d6c341d6009069c088004ef343007, 0x45d82145d41f34e80643144c⟩,
  ⟨6, 4, 0x800c2380000080082b05102544b40544b0048038248044771d6c34069c088004970b5007, 0x45d82145d41f0c0c300bb4140b5415⟩,
  ⟨6, 4, 0x800c2380000080082b05102544740544700480382480447719bc34069c08800497036c07, 0x45d8214d701f03a830037414037015⟩,
  ⟨7, 4, 0x800c2380000080082b051025037c0380382480447719bc341d6009069c088004ef343007, 0x45d8214d701f34e80643144c⟩,
  ⟨6, 4, 0x800c2380000080082b05102544b40544b00480382480447719bc34069c088004970b5007, 0x45d8214d701f0c0c300bb4140b5415⟩,
  ⟨6, 4, 0x800c2380000080082b0510254474054470048038248044771ab834069c08800497036c07, 0x45d8214d701f03a830037414037015⟩,
  ⟨7, 4, 0x800c2380000080082b051025037c038038248044771ab8341d6009069c088004ef343007, 0x45d8214d701f34e80643144c⟩,
  ⟨6, 4, 0x800c2380000080082b05102544b40544b0048038248044771ab834069c088004970b5007, 0x45d8214d701f0c0c300bb4140b5415⟩,
  ⟨6, 3, 0x80302380000080082b056425449405449004805cc180bc0880044f175007, 0x19c830175814175415⟩,
  ⟨6, 3, 0x80000080082b05a0254494054490048030a380b40880044f175007, 0x19c830175814175415⟩,
  ⟨6, 3, 0x80000080082b05a0254494054490048070a307c00880044f175007, 0x19c830175814175415⟩,
  ⟨6, 3, 0x80000080082b05642544940544900406dc088004f0175007, 0x19c830175814175415⟩,
  ⟨11, 2, 0x54c4222658492654562208431dec261bfc59455c0f2d4429800000459c0154581606484e2e6c0b1de80e442805442404036403032c0283ec671fa0092a082016384d30c472, 0x439405527c0029082228a82730d801132c042d44114f54403b5c024f503e544806390437⟩,
  ⟨6, 4, 0x80000080082b05a02544940544900407c00880045c175007, 0x19c830175814175415⟩,
  ⟨11, 2, 0x54c4222658492654562208431dec261bfc59455c0f2d4429800000459c0154581606484e2e6c0b1de80e442805442404036403032c0283ec671fa0092a082016384d30c472, 0x439405527c0029082228a82730d801132c042d44114f54403b5c024f503e5448063a1837⟩,
  ⟨6, 4, 0x80000080082b0510254474054470040080240644088004a0036c07, 0x3a830037414037015⟩,
  ⟨7, 4, 0x80000080082b051025037c030080241d600906440880053b343007, 0x34e80643144c⟩,
  ⟨6, 4, 0x80000080082b05102544b40544b0040080240644088004a00b5007, 0xc0c300bb4140b5415⟩,
  ⟨6, 4, 0x80000080082b05102542f80542f4040644088004f1173407, 0x1ae430173c14173815⟩,
  ⟨6, 3, 0x80000080082b0564254494054490048070248160db06dc0880044f175007, 0x19c830175814175415⟩,
  ⟨6, 4, 0x80000080082b05102542f80542f40400c0240644088004a0173407, 0x1ae430173c14173815⟩,
  ⟨7, 4, 0x80000080082b051025037c0300c0241d600906440880053b343007, 0x34e80643144c⟩,
  ⟨6, 4, 0x80000080082b05102544b40544b00400c0240644088004a0450407, 0xc0c300bb414450815⟩,
  ⟨6, 4, 0x80000080082b05102544b40544b0040120240644088004a00b5007, 0xc0c300bb4140b5415⟩,
  ⟨6, 4, 0x80000080082b05b82542f80542f404081c088004f2173407, 0x1ae430173c14173815⟩,
  ⟨7, 4, 0x80000080082b051025037c030120241d600906440880053b343007, 0x34e80643144c⟩,
  ⟨6, 4, 0x80000080082b05102542f80542f4040120240644088004a0173407, 0x1ae430173c14173815⟩,
  ⟨6, 4, 0x800c2380000080082b0510258038248044771d6c34069c08800497456c07, 0x45d82145d41f⟩,
  ⟨6, 3, 0x80000080082b05642544940544900405448981347e06dc088004dd175007, 0x19c830175814175415⟩,
  ⟨7, 3, 0x80000080082b056425037c0305448981347e1d600906dc088005dc30b807, 0x317c0643144c⟩,
  ⟨6, 3, 0x80000080082b05e825449405449004805c450f2c2480302a81a80880044f175007, 0x19c830175814175415⟩,
  ⟨7, 3, 0x80000084c4e2, 0x0⟩,
  ⟨7, 3, 0x8000008088e2, 0x0⟩,
  ⟨7, 3, 0x8000008088e2, 0x0⟩]

/-- States 1152 to 1215. -/
def states1152 : List PackedRow := [
  ⟨7, 3, 0x8000008088e2, 0x0⟩,
  ⟨7, 3, 0x8000008088e2, 0x0⟩,
  ⟨7, 3, 0x80000084c8e2, 0x0⟩,
  ⟨6, 3, 0x80000010f40180082b46d827056825509c1d04200280349c06e4088005dd, 0x2b780f2ac829⟩,
  ⟨7, 3, 0x80403c800000808967, 0x0⟩,
  ⟨7, 3, 0x80403c800000808967, 0x0⟩,
  ⟨7, 3, 0x80000084cce2, 0x0⟩,
  ⟨6, 4, 0x800c2380000080082b05102580382480447719bc34069c08800497456c07, 0x45d8214d701f⟩,
  ⟨6, 4, 0x800c2380000080082b0510258038248044771ab834069c08800497456c07, 0x45d8214d701f⟩,
  ⟨7, 3, 0x80000080082b05a02507c008800458, 0x0⟩,
  ⟨7, 3, 0x80000080082b05a42507c808800458, 0x0⟩,
  ⟨7, 3, 0x80000080082b06182544940544900409a4088004f3175007, 0x19c830175814175415⟩,
  ⟨6, 4, 0x800c2380000080082b0520258038248044771d6c3406a008800497, 0x45d82145d41f⟩,
  ⟨6, 4, 0x800c2380000080082b0510258038248044771d6c34069c08800497, 0x45d82145d41f⟩,
  ⟨7, 4, 0x80000080082b057c25037c031d6009076008800568343007, 0x34e80643144c⟩,
  ⟨6, 4, 0x80000080082b057c2544b40544b0040760088004a70b5007, 0xc0c300bb4140b5415⟩,
  ⟨6, 3, 0x80000080082b05e8254494054490040f2c2408d4088004be175007, 0x19c830175814175415⟩,
  ⟨6, 3, 0x80000080082b05e8254494054490040f502408d4088004be175007, 0x19c830175814175415⟩,
  ⟨6, 3, 0x80243c80000080e00180082b05682580dc1d80749b06e4088005de, 0x2b640f⟩,
  ⟨6, 4, 0x80000080082b057c254474054470040760088004a7036c07, 0x3a830037414037015⟩,
  ⟨6, 3, 0x80000080082b05e825449405449004805c4580302a81a80880044f175007, 0x19c830175814175415⟩,
  ⟨7, 3, 0x800000832569, 0x0⟩,
  ⟨7, 3, 0x800000832969, 0x0⟩,
  ⟨6, 4, 0x80000010fc0180082b4e0c2705682552a81d04240280350206e408800522, 0x2fb00f2d9c29⟩,
  ⟨6, 4, 0x800c2380000080082b05202580382480447719bc3406a008800497, 0x45d8214d701f⟩,
  ⟨6, 4, 0x800c2380000080082b05102580382480447719bc34069c08800497, 0x45d8214d701f⟩,
  ⟨7, 4, 0x80000080082b057c25037c031d6009076008800568343007, 0x34e80644384c⟩,
  ⟨6, 4, 0x80000080082b057c254428054424040760088004a7347c07, 0x40383037b414348015⟩,
  ⟨6, 4, 0x800c2380000080082b0520258038248044771ab83406a008800497, 0x45d8214d701f⟩,
  ⟨6, 4, 0x800c2380000080082b0510258038248044771ab834069c08800497, 0x45d8214d701f⟩,
  ⟨6, 4, 0x80000080082b057c2542f80542f4040760088004a7173407, 0x1ae430173c14173815⟩,
  ⟨6, 3, 0x80000080082b05d025449405449004087408800504175007, 0x19c830175814175415⟩,
  ⟨6, 4, 0x80000080082b057c2544b40544b0040760088004a7450407, 0xc0c300bb414450815⟩,
  ⟨7, 3, 0x80000080082b07c808800458, 0x0⟩,
  ⟨6, 4, 0x80000010f40180082b46d827052025509c1d04200280349c0654088005df, 0x2b780f2ac829⟩,
  ⟨6, 3, 0x80243c84d02380000080e00180082b05682580dc1d80748310602483f09a8140088004f4, 0x2b640f50b01c⟩,
  ⟨1, 2, 0x8000000edc0155b01d04200282d9e0, 0x4f900f133829⟩,
  ⟨6, 3, 0x80603c80000080082b05642580c89b06dc0880056a, 0x0⟩,
  ⟨6, 4, 0x80000087480180082b05682587441d8074838024c483f0678140088004f4, 0x2f940f⟩,
  ⟨6, 3, 0x80000010f40180082b46d827056825509c1d04200280353c06e4088005e1, 0x2b780f2ac829⟩,
  ⟨6, 4, 0x80000010f40180082b46d82705bc25509c1d04200280349c0824088005e2, 0x2b780f2ac829⟩,
  ⟨6, 3, 0x80000080082b05e82544940544900408d4088004be175007, 0x19c830175814175415⟩,
  ⟨6, 3, 0x80000080082b0600254494054490040934088004cb175007, 0x19c830175814175415⟩,
  ⟨6, 3, 0x80000080082b05a02544940544900480702407c00880044f175007, 0x19c830175814175415⟩,
  ⟨6, 3, 0x80000080082b05a02544940544900405448981347e07c0088004f5175007, 0x19c830175814175415⟩,
  ⟨6, 3, 0x80302380000080082b056425805cc180bc0880044f, 0x0⟩,
  ⟨6, 3, 0x80302380000080082b056825805cc181400880044f, 0x0⟩,
  ⟨6, 3, 0x80000080082b05a02544940544900406b00880044f175007, 0x19c830175814175415⟩,
  ⟨1, 2, 0x84d40f800000874c138345e3, 0x12f805132c04⟩,
  ⟨6, 4, 0x80243c80000080e00180082b05202580dc1d80749b0654088005e4, 0x2b640f⟩,
  ⟨7, 3, 0x80000080082b05a02587500305448981347e1d600907c0088005e546b407, 0x46b406⟩,
  ⟨6, 3, 0x80243c80000080e00180082b05a42580dc1d80748387544a80313d8270088004f4, 0x2b640f⟩,
  ⟨6, 3, 0x80000080082b05682506e4088004f0, 0x0⟩,
  ⟨6, 3, 0x80000080082b05a0258030a380b40880044f, 0x0⟩,
  ⟨6, 3, 0x80000080082b05a4258030a382700880044f, 0x0⟩,
  ⟨6, 3, 0x80000080082b05a0258070a307c00880044f, 0x0⟩,
  ⟨6, 3, 0x80000080082b05a4258070a307c80880044f, 0x0⟩,
  ⟨6, 3, 0x80243c80302380000080e00180082b05682580dc1d80748383f04a805cf68140088004f4, 0x2b640f⟩,
  ⟨6, 3, 0x80000080082b05642506dc088004f0, 0x0⟩,
  ⟨6, 4, 0x80000080082b05642580c88380616b80bc08800481, 0x0⟩,
  ⟨6, 3, 0x80000010f40180082b46d827056825509c1d0420028034de06e408800522, 0x2b780f2ac829⟩,
  ⟨6, 3, 0x80000080082b05a02544940544900407240880044f175007, 0x19c830175814175415⟩,
  ⟨1, 2, 0x84d40f8000008345e6, 0x12f805132c04⟩,
  ⟨6, 4, 0x80243c80000080e00180082b05bc2580dc1d80749b0824088005e7, 0x2b640f⟩]

/-- States 1216 to 1279. -/
def states1216 : List PackedRow := [
  ⟨6, 4, 0x80000010f40180082b46d827058425509c1d04200280349c0768088005e8, 0x2b780f2ac829⟩,
  ⟨6, 3, 0x80000080082b05a02544940544900408000880044f175007, 0x19c830175814175415⟩,
  ⟨6, 3, 0x80000010f40180082b46d82705d425509c1d04200280349c087c088005e9, 0x2b780f2ac829⟩,
  ⟨6, 3, 0x80000080082b05a02544940544900408b40880044f175007, 0x19c830175814175415⟩,
  ⟨6, 3, 0x80000080082b05a02544940544900409140880044f175007, 0x19c830175814175415⟩,
  ⟨6, 3, 0x80000080082b05a02544940544900409740880044f175007, 0x19c830175814175415⟩,
  ⟨6, 3, 0x80000080082b05a02544940544900407a80880044f175007, 0x19c830175814175415⟩,
  ⟨7, 3, 0x80000010f40180082b46d827061c25509c1d04200280349c09ac088005ea, 0x2b780f2ac829⟩,
  ⟨6, 3, 0x80000080082b05a02544940544900409e40880044f175007, 0x19c830175814175415⟩,
  ⟨6, 3, 0x80000080082b05a02544940544900408600880044f175007, 0x19c830175814175415⟩,
  ⟨6, 4, 0x80000080082b0510250080240644088004a0456c07, 0x0⟩,
  ⟨1, 2, 0x80000084d923, 0x0⟩,
  ⟨6, 3, 0x80302380000080082b805cc181400880044f, 0x0⟩,
  ⟨1, 2, 0x80000082d923, 0x0⟩,
  ⟨1, 2, 0x80000084dd23, 0x0⟩,
  ⟨6, 4, 0x80603c80000080082b05102580c89b06440880056c, 0x0⟩,
  ⟨6, 3, 0x80000080082b05a02580c88380612480313d80b408800481, 0x0⟩,
  ⟨1, 2, 0x80000084e123, 0x0⟩,
  ⟨6, 3, 0x80000080e00180082b05a42580dc1d8074838070248024c507c8088004f4, 0x2b640f⟩,
  ⟨6, 4, 0x80403c8000008088bf, 0x0⟩,
  ⟨6, 4, 0x80403c8000008088bf, 0x0⟩,
  ⟨6, 3, 0x80000080082b06e4088004f0, 0x0⟩,
  ⟨6, 4, 0x80000080082b05a02507c00880045c, 0x0⟩,
  ⟨6, 3, 0x80000080082b8030a382700880044f, 0x0⟩,
  ⟨6, 3, 0x80000080082b8070a307c80880044f, 0x0⟩,
  ⟨6, 3, 0x80302380000080082b05642580c883806124805cf680bc08800481, 0x0⟩,
  ⟨1, 2, 0x80000084e5eb, 0x0⟩,
  ⟨6, 3, 0x80243c80000080e00180082b05682580dc1d80748380702487589a06e4088004f4, 0x2b640f⟩,
  ⟨6, 3, 0x8000008040c580896d, 0x0⟩,
  ⟨6, 3, 0x8000008040c580896d, 0x0⟩,
  ⟨6, 4, 0x80000080e00180082b05842580dc1d80749080248a0768088005ec, 0x2b640f⟩,
  ⟨6, 4, 0x8000008040c480896e, 0x0⟩,
  ⟨6, 4, 0x8000008040c480896e, 0x0⟩,
  ⟨6, 4, 0x80000080082b05a42507c80880045c, 0x0⟩,
  ⟨6, 4, 0x80000080082b05102500c0240644088004a0456c07, 0x0⟩,
  ⟨6, 4, 0x80603c80000080082b05b82580c89b081c0880056f, 0x0⟩,
  ⟨6, 3, 0x80000010f40180082b46d82705a425509c1d04200280357007c808800522, 0x2b780f2ac829⟩,
  ⟨6, 3, 0x80000010f40180082b46d82705ec25509c1d04200280349c08dc088005ed, 0x2b780f2ac829⟩,
  ⟨6, 3, 0x80000010f40180082b46d827060425509c1d04200280349c093c088005ee, 0x2b780f2ac829⟩,
  ⟨7, 3, 0x80243c80000080e00180082b061c2580dc1d80749b09ac088005ef, 0x2b640f⟩,
  ⟨6, 3, 0x80000080e00180082b05d42580dc1d80749080248a087c088005f0, 0x2b640f⟩,
  ⟨6, 4, 0x80000080082b0510250120240644088004a0456c07, 0x0⟩,
  ⟨6, 4, 0x80000080082b0520250080240654088004a0, 0x0⟩,
  ⟨6, 4, 0x80000080082b0510250080240644088004a0, 0x0⟩,
  ⟨6, 4, 0x80000080082b0510250644088004f1, 0x0⟩,
  ⟨6, 4, 0x80000080082b0520250654088004f1, 0x0⟩,
  ⟨6, 4, 0x80000084c4bf, 0x0⟩,
  ⟨6, 3, 0x80000080082b0564258070248160db06dc0880044f, 0x0⟩,
  ⟨6, 4, 0x8000008324bf, 0x0⟩,
  ⟨6, 4, 0x8000008088bf, 0x0⟩,
  ⟨6, 4, 0x8000008088bf, 0x0⟩,
  ⟨6, 4, 0x8000008088bf, 0x0⟩,
  ⟨6, 4, 0x8000008088bf, 0x0⟩,
  ⟨6, 4, 0x8000008328bf, 0x0⟩,
  ⟨6, 4, 0x80000084c8bf, 0x0⟩,
  ⟨6, 3, 0x80000080082b05a02580c8838070248060c507c008800481, 0x0⟩,
  ⟨6, 4, 0x80000084ccbf, 0x0⟩,
  ⟨6, 3, 0x80603c80000080082b05642580c883807024875c9a06dc08800481, 0x0⟩,
  ⟨6, 3, 0x80000080082b05642580c88380617180bc08800481, 0x0⟩,
  ⟨6, 3, 0x80000010f40180082b46d82705a425509c1d8035f104200207c808800522, 0x2b780f2ac829⟩,
  ⟨6, 4, 0x80000080082b057c2580c89080608a0760088004e3, 0x0⟩,
  ⟨6, 3, 0x80243c80000080e00180082b05682580dc1d8074f706e4088005f2, 0x2b640f⟩,
  ⟨6, 4, 0x80000080082b07c80880045c, 0x0⟩,
  ⟨6, 4, 0x80000080082b05202500c0240654088004a0, 0x0⟩]

/-- States 1280 to 1343. -/
def states1280 : List PackedRow := [
  ⟨6, 4, 0x80000080082b05102500c0240644088004a0, 0x0⟩,
  ⟨6, 3, 0x80000010f40180082b46d82705a425509c1d04200280349c07c8088005f3, 0x2b780f2ac829⟩,
  ⟨6, 4, 0x80000080082b05b825081c088004f2, 0x0⟩,
  ⟨7, 3, 0x80603c80000080082b06182580c89b09a408800572, 0x0⟩,
  ⟨6, 3, 0x80000080082b05d02580c89080608a087408800573, 0x0⟩,
  ⟨6, 4, 0x80000080082b0520250120240654088004a0, 0x0⟩,
  ⟨6, 4, 0x80000080082b0510250120240644088004a0, 0x0⟩,
  ⟨6, 4, 0x80000080082b05bc250824088004f2, 0x0⟩,
  ⟨6, 3, 0x80000080e00180082b05ec2580dc1d80749080248a08dc088005f4, 0x2b640f⟩,
  ⟨6, 3, 0x80000080e00180082b06042580dc1d80749080248a093c088005f5, 0x2b640f⟩,
  ⟨6, 4, 0x80000080082b0654088004f1, 0x0⟩,
  ⟨6, 4, 0x80000080082b057c250760088004a7456c07, 0x0⟩,
  ⟨6, 3, 0x80000080082b0568258160db06e40880044f, 0x0⟩,
  ⟨6, 3, 0x80000080082b8070248160db06e40880044f, 0x0⟩,
  ⟨6, 3, 0x80000080082b05642505448981347e06dc088004dd, 0x0⟩,
  ⟨6, 3, 0x80000080082b05682505488982747e06e4088004dd, 0x0⟩,
  ⟨6, 3, 0x80000080082b05e825805c450f2c2480302a81a80880044f, 0x0⟩,
  ⟨6, 3, 0x80000080082b05ec25805c450f34240f307e80302a82dc088004f5, 0x0⟩,
  ⟨6, 3, 0x80000080e00180082b05a42580dc1d80749080248a07c8088005f6, 0x2b640f⟩,
  ⟨6, 4, 0x80000080408a808974, 0x0⟩,
  ⟨6, 4, 0x80000080408a808974, 0x0⟩,
  ⟨6, 3, 0x80603c80000080082b05642580c8f706dc08800505, 0x0⟩,
  ⟨6, 3, 0x8040e4800000808975, 0x0⟩,
  ⟨6, 3, 0x8040e4800000808975, 0x0⟩,
  ⟨6, 4, 0x80000080082b057c250760088004a74eb407, 0x0⟩,
  ⟨7, 3, 0x80000080082b06182509a4088004f3, 0x0⟩,
  ⟨6, 4, 0x80000080082b0824088004f2, 0x0⟩,
  ⟨6, 3, 0x80000080082b05e82580c89080608a08d408800576, 0x0⟩,
  ⟨6, 3, 0x80000080082b06002580c89080608a093408800577, 0x0⟩,
  ⟨7, 3, 0x80000080082b061c2509ac088004f3, 0x0⟩,
  ⟨6, 3, 0x80000080082b05488982747e06e4088004dd, 0x0⟩,
  ⟨8, 2, 0x54c42224dc491d7c5624cc432178261db059455c0f2d3429800000459c015458162f480b21740e442805442404052c03032c020a847015b8df29702016344d2f4c72, 0x439405527c0029042228a42730d801132c042d34113b5c0238d437⟩,
  ⟨6, 3, 0x80000080082b05e8250f2c2408d4088004be, 0x0⟩,
  ⟨6, 3, 0x80000080082b05ec250f34240f307e08dc08800578, 0x0⟩,
  ⟨6, 3, 0x80000080082b05e8250f502408d4088004be, 0x0⟩,
  ⟨6, 3, 0x80000080082b05ec250f54240f307e08dc08800578, 0x0⟩,
  ⟨6, 3, 0x80000080082b05e825805c4580302a81a80880044f, 0x0⟩,
  ⟨6, 3, 0x80000080082b05ec25805c4580302a82dc0880044f, 0x0⟩,
  ⟨6, 3, 0x80000080082b05a02580c89080608a07c008800579, 0x0⟩,
  ⟨6, 3, 0x80000080408a80897a, 0x0⟩,
  ⟨6, 3, 0x80000080408a80897a, 0x0⟩,
  ⟨8, 2, 0x54c42224dc491d7c5624cc432178261db059455c0f2d3429800000459c015458162f480b21740e442805442404052c03032c021e247015c0df29702016344d2f4c72, 0x439405527c0029042228a42730d801132c042d34113b5c0239d037⟩,
  ⟨8, 2, 0x54c42224dc491d7c5624cc432178261db059455c0f2d3429800000459c015458162f480b21740e442805442404052c03032c022f787015c4df29702016344d2f4c72, 0x439405527c0029042228a42730d801132c042d34113b5c023a1437⟩,
  ⟨8, 2, 0x54c42224dc491d7c5624cc432178261db059455c0f2d3429800000459c015458162f480b21740e442805442404052c03032c0217807015c8df29702016344d2f4c72, 0x439405527c0029042228a42730d801132c042d34113b5c023a2837⟩,
  ⟨8, 2, 0x54c42224dc491d7c5624cc432178261db059455c0f2d3429800000459c015458162f480b21740e442805442404052c03032c0232b47015ccdf29702016344d2f4c72, 0x439405527c0029042228a42730d801132c042d34113b5c023a3c37⟩,
  ⟨8, 2, 0x54c42224dc491d7c5624cc432178261db059455c0f2d3429800000459c015458162f480b21740e442805442404052c03032c0239a07015d0df29702016344d2f4c72, 0x439405527c0029042228a42730d801132c042d34113b5c023a5037⟩,
  ⟨6, 4, 0x80000080082b057c250760088004a7, 0x0⟩,
  ⟨6, 3, 0x80000080082b05d025087408800504, 0x0⟩,
  ⟨6, 4, 0x80000080082b0584250768088004a7, 0x0⟩,
  ⟨6, 3, 0x80000080082b05d425087c08800504, 0x0⟩,
  ⟨7, 3, 0x80000080082b09ac088004f3, 0x0⟩,
  ⟨6, 3, 0x80000080082b805c4580302a82dc0880044f, 0x0⟩,
  ⟨6, 3, 0x80000080082b05e82508d4088004be, 0x0⟩,
  ⟨6, 3, 0x80000080082b0600250934088004cb, 0x0⟩,
  ⟨6, 4, 0x80000080082b0768088004a7, 0x0⟩,
  ⟨6, 3, 0x80000080082b05a02580702407c00880044f, 0x0⟩,
  ⟨6, 3, 0x80000080082b05a02505448981347e07c0088004f5, 0x0⟩,
  ⟨6, 3, 0x80000080082b05a42505488982747e07c8088004f5, 0x0⟩,
  ⟨6, 3, 0x80000080082b087c08800504, 0x0⟩,
  ⟨6, 3, 0x80000080082b05ec2508dc088004be, 0x0⟩,
  ⟨6, 3, 0x80000080082b060425093c088004cb, 0x0⟩,
  ⟨6, 3, 0x80000080082b05a02506b00880044f, 0x0⟩,
  ⟨6, 3, 0x80000080082b05a42506b40880044f, 0x0⟩,
  ⟨8, 2, 0x54c42224dc491d7c5624cc432178261db059455c0f2d3429800000459c015458162f480b21740e442805442404052c03032c020a8c7029702016344d2f4c72, 0x439405527c0029042228a42730d801132c042d34113b5c023c5437⟩]

/-- States 1344 to 1407. -/
def states1344 : List PackedRow := [
  ⟨8, 2, 0x54c42224dc491d7c5624cc432178261db059455c0f2d3429800000459c015458162f480b21740e442805442404052c03032c020a907029702016344d2f4c72, 0x439405527c0029042228a42730d801132c042d34113b5c023c5437⟩,
  ⟨8, 2, 0x54c42224dc491d7c5624cc432178261db059455c0f2d3429800000459c015458162f480b21740e442805442404052c03032c020a947029702016344d2f4c72, 0x439405527c0029042228a42730d801132c042d34113b5c023c5437⟩,
  ⟨6, 3, 0x80000080082b05a02507240880044f, 0x0⟩,
  ⟨6, 3, 0x80000080082b05a42507280880044f, 0x0⟩,
  ⟨8, 2, 0x54c42224dc491d7c5624cc432178261db059455c0f2d3429800000459c015458162f480b21740e442805442404052c03032c021edc7029702016344d2f4c72, 0x439405527c0029042228a42730d801132c042d34113b5c023c5437⟩,
  ⟨8, 2, 0x54c42224dc491d7c5624cc432178261db059455c0f2d3429800000459c015458162f480b21740e442805442404052c03032c021f207029702016344d2f4c72, 0x439405527c0029042228a42730d801132c042d34113b5c023c5437⟩,
  ⟨8, 2, 0x54c42224dc491d7c5624cc432178261db059455c0f2d3429800000459c015458162f480b21740e442805442404052c03032c021f307029702016344d2f4c72, 0x439405527c0029042228a42730d801132c042d34113b5c023c5437⟩,
  ⟨8, 2, 0x54c42224dc491d7c5624cc432178261db059455c0f2d3429800000459c015458162f480b21740e442805442404052c03032c022fe07029702016344d2f4c72, 0x439405527c0029042228a42730d801132c042d34113b5c023c5437⟩,
  ⟨8, 2, 0x54c42224dc491d7c5624cc432178261db059455c0f2d3429800000459c015458162f480b21740e442805442404052c03032c0230007029702016344d2f4c72, 0x439405527c0029042228a42730d801132c042d34113b5c023c5437⟩,
  ⟨8, 2, 0x54c42224dc491d7c5624cc432178261db059455c0f2d3429800000459c015458162f480b21740e442805442404052c03032c0230107029702016344d2f4c72, 0x439405527c0029042228a42730d801132c042d34113b5c023c5437⟩,
  ⟨8, 2, 0x54c42224dc491d7c5624cc432178261db059455c0f2d3429800000459c015458162f480b21740e442805442404052c03032c0218247029702016344d2f4c72, 0x439405527c0029042228a42730d801132c042d34113b5c023c5437⟩,
  ⟨8, 2, 0x54c42224dc491d7c5624cc432178261db059455c0f2d3429800000459c015458162f480b21740e442805442404052c03032c0218647029702016344d2f4c72, 0x439405527c0029042228a42730d801132c042d34113b5c023c5437⟩,
  ⟨8, 2, 0x54c42224dc491d7c5624cc432178261db059455c0f2d3429800000459c015458162f480b21740e442805442404052c03032c0218747029702016344d2f4c72, 0x439405527c0029042228a42730d801132c042d34113b5c023c5437⟩,
  ⟨8, 2, 0x54c42224dc491d7c5624cc432178261db059455c0f2d3429800000459c015458162f480b21740e442805442404052c03032c0233207029702016344d2f4c72, 0x439405527c0029042228a42730d801132c042d34113b5c023c5437⟩,
  ⟨8, 2, 0x54c42224dc491d7c5624cc432178261db059455c0f2d3429800000459c015458162f480b21740e442805442404052c03032c0233447029702016344d2f4c72, 0x439405527c0029042228a42730d801132c042d34113b5c023c5437⟩,
  ⟨8, 2, 0x54c42224dc491d7c5624cc432178261db059455c0f2d3429800000459c015458162f480b21740e442805442404052c03032c0233547029702016344d2f4c72, 0x439405527c0029042228a42730d801132c042d34113b5c023c5437⟩,
  ⟨8, 2, 0x54c42224dc491d7c5624cc432178261db059455c0f2d3429800000459c015458162f480b21740e442805442404052c03032c0239a87029702016344d2f4c72, 0x439405527c0029042228a42730d801132c042d34113b5c023c5437⟩,
  ⟨8, 2, 0x54c42224dc491d7c5624cc432178261db059455c0f2d3429800000459c015458162f480b21740e442805442404052c03032c0239ac7029702016344d2f4c72, 0x439405527c0029042228a42730d801132c042d34113b5c023c5437⟩,
  ⟨8, 2, 0x54c42224dc491d7c5624cc432178261db059455c0f2d3429800000459c015458162f480b21740e442805442404052c03032c0239b07029702016344d2f4c72, 0x439405527c0029042228a42730d801132c042d34113b5c023c5437⟩,
  ⟨6, 3, 0x80000080082b05a02508000880044f, 0x0⟩,
  ⟨6, 3, 0x80000080082b05a42508040880044f, 0x0⟩,
  ⟨6, 3, 0x80000080082b05a02508b40880044f, 0x0⟩,
  ⟨6, 3, 0x80000080082b05a42508b80880044f, 0x0⟩,
  ⟨6, 3, 0x80000080082b05a02509140880044f, 0x0⟩,
  ⟨6, 3, 0x80000080082b05a42509180880044f, 0x0⟩,
  ⟨6, 3, 0x80000080082b05a02509740880044f, 0x0⟩,
  ⟨6, 3, 0x80000080082b05a42509780880044f, 0x0⟩,
  ⟨6, 3, 0x80000080082b05a02507a80880044f, 0x0⟩,
  ⟨6, 3, 0x80000080082b05a42507ac0880044f, 0x0⟩,
  ⟨6, 3, 0x80000080082b80702407c80880044f, 0x0⟩,
  ⟨6, 3, 0x80000080082b05488982747e07c8088004f5, 0x0⟩,
  ⟨6, 3, 0x80000080082b05a02509e40880044f, 0x0⟩,
  ⟨6, 3, 0x80000080082b05a42509e80880044f, 0x0⟩,
  ⟨6, 3, 0x80000080082b05a02508600880044f, 0x0⟩,
  ⟨6, 3, 0x80000080082b05a42508640880044f, 0x0⟩,
  ⟨6, 3, 0x80000080082b08dc088004be, 0x0⟩,
  ⟨6, 3, 0x80000080082b093c088004cb, 0x0⟩,
  ⟨6, 3, 0x80000080082b06b40880044f, 0x0⟩,
  ⟨6, 3, 0x80000080082b07280880044f, 0x0⟩,
  ⟨6, 3, 0x80000080082b08040880044f, 0x0⟩,
  ⟨6, 3, 0x80000080082b08b80880044f, 0x0⟩,
  ⟨6, 3, 0x80000080082b09180880044f, 0x0⟩,
  ⟨6, 3, 0x80000080082b09780880044f, 0x0⟩,
  ⟨6, 3, 0x80000080082b07ac0880044f, 0x0⟩,
  ⟨6, 3, 0x80000080082b09e80880044f, 0x0⟩,
  ⟨6, 3, 0x80000080082b08640880044f, 0x0⟩,
  ⟨8, 2, 0x54c42224dc491d7c5624cc432178261db059455c0f2d3429800000459c015458162f480b21740e442805442404052c03032c0229702016344d2f4c72, 0x439405527c0029042228a42730d801132c042d34113b5c02390437⟩,
  ⟨8, 2, 0x54c42224dc491d7c5624cc432178261db059455c0f2d3429800000459c015458162f480b21740e442805442404052c03032c0229702016344d2f4c72, 0x439405527c0029042228a42730d801132c042d34113b5c023c5437⟩,
  ⟨8, 2, 0x54c42224dc491d7c5624cc432178261db059455c0f2d3429800000459c015458162f480b21740e442805442404052c03032c0229702016344d2f4c72, 0x439405527c0029042228a42730d801132c042d34113b5c0239d837⟩,
  ⟨8, 2, 0x54c42224dc491d7c5624cc432178261db059455c0f2d3429800000459c015458162f480b21740e442805442404052c03032c0229702016344d2f4c72, 0x439405527c0029042228a42730d801132c042d34113b5c023a1837⟩,
  ⟨8, 2, 0x54c42224dc491d7c5624cc432178261db059455c0f2d3429800000459c015458162f480b21740e442805442404052c03032c0229702016344d2f4c72, 0x439405527c0029042228a42730d801132c042d34113b5c023a2c37⟩,
  ⟨8, 2, 0x54c42224dc491d7c5624cc432178261db059455c0f2d3429800000459c015458162f480b21740e442805442404052c03032c0229702016344d2f4c72, 0x439405527c0029042228a42730d801132c042d34113b5c023a4037⟩,
  ⟨8, 2, 0x54c42224dc491d7c5624cc432178261db059455c0f2d3429800000459c015458162f480b21740e442805442404052c03032c0229702016344d2f4c72, 0x439405527c0029042228a42730d801132c042d34113b5c023a5437⟩,
  ⟨8, 2, 0x29509e28982224dc491d7c561a344b24b8431d78261a30594dd00f2c882980000054581620f00e442805442404052c0315d8461a2c34294c202f4cbd, 0x24bc0528f02227f02743645c46145b27345915d85a2934042c8811⟩,
  ⟨8, 2, 0x29509e28982224dc491d7c561a344b24b8431d78261a30594dd00f2c882980000054581620f00e442805442404052c0315dc461a8c34294c202f4cbd, 0x24bc0528f02227f02743645c46145b27345915dc5a2934042c8811⟩,
  ⟨8, 2, 0x87a49e87a022879c4987985687944b879043878c2687885987840f878029800000877c1687780e877405877004876c0387684683f4348764208760bd, 0x24bc0528f02227f02743645c46145b27345915dc5a2934042c8811⟩,
  ⟨11, 5, 0x57285257245457f82239bc5328bc4b455c0f80000053681058c00e572c13800c7134c028380451380050816c34803c2a308c0939b81458043606d4084d400c4e9c4c02d49d4e9820, 0x45d82145d41f42d805403025132c04402824402c3b443050531c56⟩,
  ⟨11, 5, 0x57285257245457f82239bc5328bc4b455c0f80000053681058c00e572c13800c7134c028380451380050817034803c2a308c0939b81458043606d4084d400c4e9c4c02d49d4e9820, 0x45d8214d701f42d805403025132c04402824402c3b443050531c56⟩,
  ⟨11, 5, 0x57285257245457f82239bc5328bc4b455c0f80000053681058c00e572c13800c7134c028380451380050817434803c2a308c0939b81458043606d4084d400c4e9c4c02d49d4e9820, 0x45d8214d701f42d805403025132c04402824402c3b443050531c56⟩,
  ⟨8, 2, 0x29509e28982224dc491d7c561a344b24b8431d78261a30594dd00f2c882980000054581620f00e442805442404052c0315f04618d434294c202f4cbd, 0x24bc0528f02227f02743645c46145b27345915f05a2934042c8811⟩,
  ⟨8, 2, 0x29509e28982224dc491d7c561a344b24b8431d78261a30594dd00f2c882980000054581620f00e442805442404052c0315dc46192c34294c202f4cbd, 0x24bc0528f02227f02743645c46145b27345915dc5a2934042c8811⟩,
  ⟨11, 5, 0x57285257245457f82239bc5328bc4b455c0f80000053681058c00e572c13800c7134c028380451380050817834803c2a308c0939b81458043606d4084d400c4e9c4c02d49d4e9820, 0x45d8214d701f42d805403025132c04402824402c3b443050531c56⟩,
  ⟨8, 2, 0x29509e28982224dc491d7c561a344b24b8431d78261a30594dd00f2c882980000054581620f00e442805442404052c0315fc46040034294c202f4cbd, 0x24bc0528f02227f02743645c46145b27345915fc5a2934042c8811⟩,
  ⟨8, 2, 0x29509e28982224dc491d7c561a344b24b8431d78261a30594dd00f2c882980000054581620f00e442805442404052c0315dc46040834294c202f4cbd, 0x24bc0528f02227f02743645c46145b27345915dc5a2934042c8811⟩]

/-- States 1408 to 1471. -/
def states1408 : List PackedRow := [
  ⟨11, 5, 0x57285257245457f82239bc5328bc4b455c0f80000053681058c00e572c13800c7134c028380451380050817c34803c2a308c0939b81458043606d4084d400c4e9c4c02d49d4e9820, 0x45d8214d701f42d805403025132c04402824402c3b443050531c56⟩,
  ⟨8, 2, 0x29509e28982224dc491d7c561a344b24b8431d78261a30594dd00f2c882980000054581620f00e442805442404052c031608460b2434294c202f4cbd, 0x24bc0528f02227f02743645c46145b27345916085a2934042c8811⟩,
  ⟨8, 2, 0x29509e28982224dc491d7c561a344b24b8431d78261a30594dd00f2c882980000054581620f00e442805442404052c0315dc460b2834294c202f4cbd, 0x24bc0528f02227f02743645c46145b27345915dc5a2934042c8811⟩,
  ⟨8, 2, 0x29509e28982224dc491d7c561a344b24b8431d78261a30594dd00f2c882980000054581620f00e442805442404052c031610460dcc34294c202f4cbd, 0x24bc0528f02227f02743645c46145b27345916105a2934042c8811⟩,
  ⟨8, 2, 0x29509e28982224dc491d7c561a344b24b8431d78261a30594dd00f2c882980000054581620f00e442805442404052c0315dc460dd034294c202f4cbd, 0x24bc0528f02227f02743645c46145b27345915dc5a2934042c8811⟩,
  ⟨1, 2, 0x26a44926a05624b04320e0261d745934e02980000006484e20dc0e44d40544d0040388031d703416502a1fa0092944203138cc, 0x458021457c1f28e42228902734e01145784045743e544806⟩,
  ⟨1, 2, 0x26f84926f45624e043227c261e005934e02980000006484e22780e44d40544d0040388031ac43416502a1fa0092944203278cc, 0x4580214d4c1f28e42228902734e0114d484045743e544806⟩,
  ⟨1, 2, 0x27004926fc5625144322c8261f405934e02980000006484e22c40e44d40544d00403880319c03416502a1fa0092944203288cc, 0x4580214d4c1f28e42228902734e0114d484045743e544806⟩,
  ⟨1, 2, 0x270849270456251c432314261f5c5934e02980000006484e23100e44d40544d0040388031c683416502a1fa0092944203290cc, 0x4580214d4c1f28e42228902734e0114d484045743e544806⟩,
  ⟨1, 2, 0x271049270c562538432328261f705934e02980000006484e23240e44d40544d00403880325343416502a1fa0092944203294cc, 0x4580214d4c1f28e42228902734e0114d484045743e544806⟩,
  ⟨1, 2, 0x271c49271856254c432338261f845934e02980000006484e23340e44d40544d004038803266c3416502a1fa009294420336ccc, 0x4580214d4c1f28e42228902734e0114d484045743e544806⟩,
  ⟨12, 4, 0x80000082017b, 0x0⟩,
  ⟨12, 4, 0x80000082057b, 0x0⟩,
  ⟨11, 5, 0x57285257245457f82239bc5328bc4b455c0f80000053681058c00e572c1334c028380451380050800c8c308c0939b81458043606d0084d400c4e9c4c02d49d4e9820, 0x42d805403025132c04402824402c3b443050531c56⟩,
  ⟨11, 5, 0x57285257245457f82239bc5328bc4b455c0f80000053681058c00e572c13800c7134c028380451380050818067308c0939b81458043606d4084d400c4e9c4c02d49d4e9820, 0x42d805403025132c04402824402c3b443050531c56⟩,
  ⟨12, 3, 0x80000010ec0137cc27518c1d058803041c0284e9f7, 0x16b00f18e4294d6c12⟩,
  ⟨12, 3, 0x80000010ec0152d81d041c0280353e, 0x17cc0f17c829⟩,
  ⟨12, 3, 0x80000010ec0152dc1d041c0280353e, 0x17d40f17d029⟩,
  ⟨12, 3, 0x80000010ec0152e01d041c0280353e, 0x17dc0f17d829⟩,
  ⟨12, 3, 0x10a88280000010ec01568c1d80257c, 0x17a40f⟩,
  ⟨1, 2, 0x27b84927b456269c4325fc2624a45934e02980000006484e25f80e44d40544d00403880383ec671fa0092944203510cc, 0x28e42228902734e0114f54404f503e544806⟩,
  ⟨12, 3, 0x39b406800000041c028349f8, 0x18f813⟩,
  ⟨12, 3, 0x800000820d06, 0x0⟩,
  ⟨12, 3, 0x800000821106, 0x0⟩,
  ⟨12, 3, 0x800000821506, 0x0⟩,
  ⟨12, 4, 0x19d057800000808008811858, 0x0⟩,
  ⟨12, 3, 0x800000820106, 0x0⟩,
  ⟨12, 3, 0x800000820506, 0x0⟩,
  ⟨12, 3, 0x80000080617d, 0x0⟩,
  ⟨12, 3, 0x80000010ec01568c1d80257c, 0x17a40f⟩,
  ⟨12, 3, 0x80000010ec018025f9, 0x17bc0f⟩,
  ⟨12, 3, 0x80000052cc1d041c028051fa, 0x17c029⟩,
  ⟨12, 3, 0x80000082e17d, 0x0⟩,
  ⟨12, 3, 0x10a88280000080246a, 0x0⟩,
  ⟨12, 3, 0x10ac8280000080246a, 0x0⟩,
  ⟨12, 3, 0x10a88280000081046a, 0x0⟩,
  ⟨12, 3, 0x80000037cc27518c1d05880381edfb, 0x4d6c12⟩,
  ⟨12, 3, 0x39b40680000018b40a87a80145a827518c1d058803041c028185fc, 0x16540f18b0134d6c12⟩,
  ⟨12, 3, 0x105c3d39b40680000018b40a87ac0145a827518c1d058803041c0211f42d1058368189fd, 0x16540f18b0134d6c12⟩,
  ⟨12, 3, 0x77042105c3d39b40680000018b40a07184107143302780107102c070c1607081507043907001206fc3006f83f06f43e45a827518c1d05880306e831041c0211f42d81b4ac10583606ec2e, 0x16540f18b0134d6c12⟩,
  ⟨12, 3, 0x39b40680000087b00145a827518c1d058803041c02811dfe, 0x16540f18b0134d6c12⟩,
  ⟨12, 3, 0x77042105c3d39b40680000018b40a07184107143302780107102c070c1607081507043907001206fc3006f83f06f43e45a827518c1d05880306e831041c0211f42d8064ac10583606ec2e, 0x16540f18b0134d6c12⟩,
  ⟨12, 3, 0x77042105c3d39b40680000018b40a07184107143302780107102c070c1607081507043907001206fc3006f83f06f43e45a827518c1d05880306e831041c0211f42d80a0ac10583606ec2e, 0x16540f18b0134d6c12⟩,
  ⟨12, 3, 0x77042105c3d39b40680000018b40a07184107143302780107102c070c1607081507043907001206fc3006f83f06f43e45a827518c1d05880306e831041c0211f42d81b8ac10583606ec2e, 0x16540f18b0134d6c12⟩,
  ⟨12, 3, 0x800000041c02834dff, 0x194829⟩,
  ⟨12, 3, 0x77042105c3d39b40680000018b40a07184107143302780107102c070c1607081507043907001206fc3006f83f06f43e45a827518c1d05880306e831041c0211f42d80a0ac10583606ec2e, 0x16540f18b0134d6c12⟩,
  ⟨12, 3, 0x77042105c3d39b40680000018b40a07184107143302780107102c070c1607081507043907001206fc3006f83f06f43e45a827518c1d05880306e831041c0211f42d8064ac10583606ec2e, 0x16540f18b0134d6c12⟩,
  ⟨12, 3, 0x39b40680000018b40a02780107102c070c1606fc3045a827518c1d058803041c0280220006ec2e, 0x16540f18b0134d6c12⟩,
  ⟨12, 3, 0x39b40680000018b40a83500107102c45a827518c1d058803041c02802201, 0x16540f18b0134d6c12⟩,
  ⟨12, 3, 0x80243c800000835458, 0x0⟩,
  ⟨12, 3, 0x11303c8000001008151004128354cd, 0x0⟩,
  ⟨12, 3, 0x77042105c3d39b40680000018b40a07184107143302780107102c070c1607081507043907001206fc3006f83f06f43e45a827518c1d05880306e831041c0211f42d8358ac10583606ec2e, 0x16540f18b0134d6c12⟩,
  ⟨12, 3, 0x39b40680000018b40a07143302780107102c070c1607081507043907001206fc3045a827518c1d05880306e831041c0280220206ec2e, 0x16540f18b0134d6c12⟩,
  ⟨12, 3, 0x39b40680000018b40a07143302780107102c070c1607081507043907001206fc3006f43e45a827518c1d05880306e831041c0280220306ec2e, 0x16540f18b0134d6c12⟩,
  ⟨12, 3, 0x39b40680000018b40a83500107102c070c1645a827518c1d058803041c0280220406ec2e, 0x16540f18b0134d6c12⟩,
  ⟨12, 3, 0x39b40680000018b40a07143302780107102c070c1606fc3045a827518c1d05880306e831041c0280220506ec2e, 0x16540f18b0134d6c12⟩,
  ⟨12, 3, 0x39b40680000018b40a07143302780107102c070c1607001206fc3045a827518c1d05880306e831041c0280220606ec2e, 0x16540f18b0134d6c12⟩,
  ⟨12, 3, 0x39b40680000018b40a07143302780107102c070c1607043907001206fc3045a827518c1d05880306e831041c0280220706ec2e, 0x16540f18b0134d6c12⟩,
  ⟨12, 3, 0x39b40680000018b40a83500107102c45a827518c1d058803041c0280220806ec2e, 0x16540f18b0134d6c12⟩,
  ⟨12, 3, 0x105c3d39b40680000018b40a83500107102c45a827518c1d058803041c0211f42d105836802209, 0x16540f18b0134d6c12⟩,
  ⟨12, 3, 0x39b40680000018b40a02780107102c070c1606fc3045a827518c1d05880306e831041c0280220a06ec2e, 0x16540f18b0134d6c12⟩,
  ⟨12, 3, 0x39b40680000018b40a07143302780107102c070c1607081507043907001206fc3006f83f06f43e45a827518c1d05880306e831041c0280220b06ec2e, 0x16540f18b0134d6c12⟩,
  ⟨12, 3, 0x11303c80000010081510041284eccd, 0x0⟩,
  ⟨12, 3, 0x77042105c3d39b40680000018b40a07184107143302780107102c070c1607081507043907001206fc3006f83f06f43e45a827518c1d05880306e831041c0211f42d8064ac10583606ec2e, 0x16540f18b0134d6c12⟩]

/-- States 1472 to 1535. -/
def states1472 : List PackedRow := [
  ⟨12, 3, 0x77042105c3d39b40680000018b40a07184107143302780107102c070c1607081507043907001206fc3006f83f06f43e45a827518c1d05880306e831041c0211f42d81bcac10583606ec2e, 0x16540f18b0134d6c12⟩,
  ⟨12, 3, 0x77042105c3d39b40680000018b40a07184107143302780107102c070c1607081507043907001206fc3006f83f06f43e45a827518c1d05880306e831041c0211f42d8068ac10583606ec2e, 0x16540f18b0134d6c12⟩,
  ⟨12, 3, 0x77042105c3d39b40680000018b40a07184107143302780107102c070c1607081507043907001206fc3006f83f06f43e45a827518c1d05880306e831041c0211f42d8068ac10583606ec2e, 0x16540f18b0134d6c12⟩,
  ⟨12, 3, 0x77042105c3d39b40680000018b40a07184107143302780107102c070c1607081507043907001206fc3006f83f06f43e45a827518c1d05880306e831041c0211f42d8068ac10583606ec2e, 0x16540f18b0134d6c12⟩,
  ⟨12, 3, 0x77042105c3d39b40680000018b40a07184107143302780107102c070c1607081507043907001206fc3006f83f06f43e45a827518c1d05880306e831041c0211f42d80ccac10583606ec2e, 0x16540f18b0134d6c12⟩,
  ⟨12, 3, 0x77042105c3d39b40680000018b40a07184107143302780107102c070c1607081507043907001206fc3006f83f06f43e45a827518c1d05880306e831041c0211f42d80ccac10583606ec2e, 0x16540f18b0134d6c12⟩,
  ⟨12, 3, 0x80c43c80000081449b80800880a507, 0x0⟩,
  ⟨12, 3, 0x80000046d827509c1d80349c80060c, 0x0⟩,
  ⟨12, 3, 0x80e43c80000081489b80ac0880d107, 0x0⟩,
  ⟨12, 3, 0x800000814c9c80060d, 0x0⟩,
  ⟨12, 3, 0x80d4e480000080ed08, 0x0⟩,
  ⟨12, 3, 0x77042105c3d39b40680000018b40a07184107143302780107102c070c1607081507043907001206fc3006f83f06f43e45a827518c1d05880306e831041c0211f42d81c0ac10583606ec2e, 0x16540f18b0134d6c12⟩,
  ⟨12, 3, 0x8094e480000080ed08, 0x0⟩,
  ⟨12, 4, 0x80000056641d00580980b97e, 0x1ae820⟩,
  ⟨12, 4, 0x80000056681d00580980b97e, 0x1ae820⟩,
  ⟨12, 4, 0x80000000580980b8e5, 0x1ae820⟩,
  ⟨12, 3, 0x80000082186a, 0x0⟩,
  ⟨12, 3, 0x80000080f06a, 0x0⟩,
  ⟨12, 3, 0x80000080f06a, 0x0⟩,
  ⟨12, 3, 0x800000821c6a, 0x0⟩,
  ⟨12, 3, 0x80000056ac1d00600980b97f, 0x19cc20⟩,
  ⟨12, 3, 0x80000056b01d00600980b97f, 0x19cc20⟩,
  ⟨12, 3, 0x80000000600980ba0e, 0x19cc20⟩,
  ⟨12, 4, 0x19d057800000811858, 0x0⟩,
  ⟨12, 3, 0x80000082e46a, 0x0⟩,
  ⟨12, 3, 0x80000080246a, 0x0⟩,
  ⟨12, 3, 0x80000080586a, 0x0⟩,
  ⟨12, 3, 0x80000080246a, 0x0⟩,
  ⟨12, 3, 0x80000052d01d805109, 0x0⟩,
  ⟨12, 3, 0x80000080506a, 0x0⟩,
  ⟨12, 3, 0x8000000eb003805180, 0x0⟩,
  ⟨12, 3, 0x80000080586a, 0x0⟩,
  ⟨12, 3, 0x80000080c46a, 0x0⟩,
  ⟨12, 3, 0x80000052d81d803509, 0x0⟩,
  ⟨12, 3, 0x80000052e41d803509, 0x0⟩,
  ⟨12, 3, 0x80000080346a, 0x0⟩,
  ⟨12, 3, 0x80000080e46a, 0x0⟩,
  ⟨12, 3, 0x80000082e86a, 0x0⟩,
  ⟨12, 3, 0x800000100412822181, 0x0⟩,
  ⟨12, 3, 0x800000814c6a, 0x0⟩,
  ⟨12, 3, 0x80000080f86a, 0x0⟩,
  ⟨12, 3, 0x80000081086a, 0x0⟩,
  ⟨12, 3, 0x11303c8000001008151004128224cd, 0x0⟩,
  ⟨12, 3, 0x8000008050b70eb00382ee0f, 0x0⟩,
  ⟨12, 3, 0x10103c800000822858, 0x0⟩,
  ⟨12, 3, 0x8000000eb00382f180, 0x0⟩,
  ⟨12, 3, 0x80000080d46a, 0x0⟩,
  ⟨12, 3, 0x80000081086a, 0x0⟩,
  ⟨12, 3, 0x80000080d46a, 0x0⟩,
  ⟨12, 3, 0x80000082486a, 0x0⟩,
  ⟨12, 3, 0x80000080946a, 0x0⟩,
  ⟨12, 3, 0x80000080b06a, 0x0⟩,
  ⟨12, 3, 0x80000080946a, 0x0⟩,
  ⟨12, 3, 0x80000080b06a, 0x0⟩,
  ⟨12, 3, 0x80000080946a, 0x0⟩,
  ⟨12, 3, 0x80000080b06a, 0x0⟩,
  ⟨12, 3, 0x80000082f46a, 0x0⟩,
  ⟨12, 3, 0x80000081506a, 0x0⟩,
  ⟨12, 3, 0x80000081506a, 0x0⟩,
  ⟨12, 3, 0x80000082f86a, 0x0⟩,
  ⟨12, 3, 0x800000835c1d810d09, 0x0⟩,
  ⟨12, 3, 0x80000080406a, 0x0⟩,
  ⟨12, 3, 0x80000080406a, 0x0⟩,
  ⟨12, 3, 0x800000835c1d810d09, 0x0⟩]

end JsxDetect.Automaton
